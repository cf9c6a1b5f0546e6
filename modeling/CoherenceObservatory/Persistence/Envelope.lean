import CoherenceObservatory.Checksum
import CoherenceObservatory.Persistence.File

/-!
# The envelope of a state file

What `sealState` and `buildSection` put around the bodies, `openState` and
`parseSections` take off again.

* `openState_sealState`: a sealed payload that is not too long is recovered with the
  epochs and the record count it was sealed with; `length_le_of_openState`: a longer
  one is refused.
-/

namespace CoherenceObservatory

open Codec Limits PayloadWriter List

/-! ## Sections -/

/-- Stages sections given as their types and bodies. -/
def stageAll (options : PersistenceOptions) :
    StagedState → List (SectionType × List UInt8) → Except Error StagedState
  | staged, [] => .ok staged
  | staged, (type, body) :: sections => do
    failIf (type.raw ∈ staged.seenSections)
      (corrupt "duplicate state section" (formatNat type.raw.toNat))
    let staged ← (stageSection options
      { staged with seenSections := type.raw :: staged.seenSections } type).run body
    stageAll options staged sections

@[simp] theorem length_buildSection (type : SectionType) (body : List UInt8) :
    (buildSection type body).length = body.length + 20 := by
  simp [buildSection]
  omega

theorem parseSection_buildSection (options : PersistenceOptions) (staged : StagedState)
    (type : SectionType) (body rest : List UInt8) (hbody : body.length + 4 < 2 ^ 64) :
    parseSection options staged (buildSection type body ++ rest) = (do
      failIf (type.raw ∈ staged.seenSections)
        (corrupt "duplicate state section" (formatNat type.raw.toNat))
      let staged ← (stageSection options
        { staged with seenSections := type.raw :: staged.seenSections } type).run body
      return (staged, body.length + 4)) := by
  generalize hdata : buildSection type body ++ rest = data
  have hlength : data.length = body.length + 20 + rest.length := by simp [← hdata]
  rw [buildSection] at hdata
  simp only [append_assoc] at hdata
  have htype : getU32 data 0 = type.raw :=
    getU32_append (show data = [] ++ _ from hdata.symm) rfl
  have hflags : getU32 data 4 = 0 := getU32_append hdata.symm (length_u32 _)
  have hsection : (getU64 data 8).toNat = body.length + 4 := by
    rw [getU64_append (hdata.symm.trans (append_assoc _ _ _).symm) (by simp)]
    exact UInt64.toNat_ofNat_of_lt' hbody
  have hdrop : data.drop 16 = body ++ (u32 (crc32 body) ++ rest) := by
    rw [← hdata, ← append_assoc, ← append_assoc, drop_left' (by simp)]
  have hcrc : getU32 data (16 + body.length) = crc32 body := by
    rw [getU32, ← drop_drop, hdrop, drop_left]
    exact getU32_append (show _ = [] ++ _ from rfl) rfl
  unfold parseSection
  simp only [stateSectionHeaderSize, htype, hflags, hsection, Nat.add_sub_cancel, hdrop,
    hcrc, take_left, SectionType.ofRaw_raw]
  refine (failIf_bind (by omega)).trans ?_
  refine (failIf_bind (by simp)).trans ?_
  refine (failIf_bind (by omega)).trans ?_
  refine (failIf_bind (by omega)).trans ?_
  exact failIf_bind (by simp)

/-- A payload of built sections is staged section by section. -/
theorem parseSections_buildSection (options : PersistenceOptions) (staged : StagedState)
    (sections : List (SectionType × List UInt8))
    (hlength : ∀ e ∈ sections, e.2.length + 4 < 2 ^ 64) :
    parseSections options staged (sections.flatMap fun e => buildSection e.1 e.2) =
      stageAll options staged sections := by
  induction sections generalizing staged with
  | nil => rw [parseSections]; rfl
  | cons e sections ih =>
    obtain ⟨type, body⟩ := e
    rw [forall_mem_cons] at hlength
    rw [flatMap_cons, parseSections, stageAll,
      parseSection_buildSection options staged type body _ hlength.1]
    have hne : (buildSection type body ++
        sections.flatMap fun e => buildSection e.1 e.2).isEmpty = false := by
      rw [isEmpty_eq_false_iff, ← length_pos_iff]
      simp
    simp only [hne, Bool.false_eq_true, if_false]
    cases failIf (type.raw ∈ staged.seenSections)
        (corrupt "duplicate state section" (formatNat type.raw.toNat)) with
    | error e => rfl
    | ok u =>
      cases (stageSection options
          { staged with seenSections := type.raw :: staged.seenSections } type).run body with
      | error e => rfl
      | ok staged' =>
        simp only [ok_bind, pure, Except.pure]
        rw [drop_left' (by rw [length_buildSection, stateSectionHeaderSize]; omega)]
        exact ih staged' hlength.2

/-! ## Header and trailer -/

@[simp] theorem length_stateMagic : stateMagic.length = 8 := rfl

@[simp] theorem length_stateTrailerMagic : stateTrailerMagic.length = 8 := rfl

@[simp] theorem length_stateHeader (payloadLength coordinatorEpoch observationEpoch recordCount : UInt64)
    (crc : UInt32) :
    (stateHeader payloadLength coordinatorEpoch observationEpoch recordCount crc).length = 64 := by
  simp [stateHeader]

@[simp] theorem length_sealState (payload : List UInt8) (c o r : UInt64) :
    (sealState payload c o r).length = payload.length + 80 := by
  simp [sealState]
  omega

/-- The fields of a header at their offsets, whatever follows it. -/
theorem stateHeader_fields (n c o r : UInt64) (crc : UInt32) (rest : List UInt8) :
    let data := stateHeader n c o r crc ++ rest
    data.take 8 = stateMagic ∧ getU32 data 8 = stateVersion ∧ getU32 data 12 = 0 ∧
      getU64 data 16 = n ∧ getU64 data 24 = c ∧ getU64 data 32 = o ∧ getU64 data 40 = r ∧
      getU32 data 48 = crc ∧
      data.take 48 ++ u32 0 ++ (data.drop 52).take 12 = stateHeader n c o r 0 := by
  have h8 : (stateMagic ++ u32 stateVersion).length = 12 := by simp
  have h12 : (stateMagic ++ u32 stateVersion ++ u32 0).length = 16 := by
    simp
  have h16 : (stateMagic ++ u32 stateVersion ++ u32 0 ++
      u64 n).length = 24 := by simp
  have h24 : (stateMagic ++ u32 stateVersion ++ u32 0 ++
      u64 n ++ u64 c).length = 32 := by simp
  have h32 : (stateMagic ++ u32 stateVersion ++ u32 0 ++
      u64 n ++ u64 c ++ u64 o).length = 40 := by simp
  have h40 : (stateMagic ++ u32 stateVersion ++ u32 0 ++
      u64 n ++ u64 c ++ u64 o ++
      u64 r).length = 48 := by simp
  have h48 : (stateMagic ++ u32 stateVersion ++ u32 0 ++
      u64 n ++ u64 c ++ u64 o ++
      u64 r ++ u32 crc).length = 52 := by simp
  refine ⟨?_, getU32_append (by simp only [stateHeader, append_assoc]; rfl) length_stateMagic,
    getU32_append (by simp only [stateHeader, append_assoc]; rfl) h8,
    getU64_append (by simp only [stateHeader, append_assoc]; rfl) h12,
    getU64_append (by simp only [stateHeader, append_assoc]; rfl) h16,
    getU64_append (by simp only [stateHeader, append_assoc]; rfl) h24,
    getU64_append (by simp only [stateHeader, append_assoc]; rfl) h32,
    getU32_append (by simp only [stateHeader, append_assoc]; rfl) h40, ?_⟩
  · simp only [stateHeader, append_assoc]
    exact take_left' rfl
  · have htake : (stateHeader n c o r crc ++ rest).take 48 = stateMagic ++
        u32 stateVersion ++ u32 0 ++ u64 n ++
        u64 c ++ u64 o ++ u64 r := by
      rw [stateHeader]
      simp only [append_assoc (_ ++ u64 r)]
      exact take_left' h40
    have hdrop : (stateHeader n c o r crc ++ rest).drop 52 =
        u32 0 ++ u64 0 ++ rest := by
      rw [stateHeader]
      simp only [append_assoc (_ ++ u32 crc)]
      rw [drop_left' h48, append_assoc]
    rw [htake, hdrop, take_left' (by simp), stateHeader]
    simp only [append_assoc]

/-- The length a header declares stays clear of the end of the 64-bit range. -/
theorem toNat_expected {n : UInt64} (h : n.toNat + 80 < 2 ^ 64) :
    (UInt64.ofNat stateHeaderSize + n + UInt64.ofNat stateTrailerSize).toNat =
      n.toNat + 80 := by
  rw [UInt64.toNat_add, UInt64.toNat_add]
  simp only [stateHeaderSize, stateTrailerSize, UInt64.toNat_ofNat']
  omega

variable {options : PersistenceOptions} {payload : List UInt8} {c o r : UInt64}
  {x : List UInt8 × UInt64 × UInt64 × UInt64}

theorem openState_sealState (c o r : UInt64) (hlength : payload.length ≤ options.maxBytes.toNat)
    (hsize : payload.length + 80 < 2 ^ 64) :
    openState (sealState payload c o r) options = .ok (payload, c, o, r) := by
  have hn : (UInt64.ofNat payload.length).toNat = payload.length :=
    UInt64.toNat_ofNat_of_lt' (by rw [UInt64.size]; omega)
  have hexpected := toNat_expected (n := UInt64.ofNat payload.length) (by rw [hn]; exact hsize)
  have hlen := length_sealState payload c o r
  simp only [stateHeaderSize, stateTrailerSize] at hexpected
  generalize hdata : sealState payload c o r = data at hlen ⊢
  rw [sealState] at hdata
  simp only [append_assoc] at hdata
  obtain ⟨hmagic, hversion, hflags, hpayload, hc, ho, hr, hcrc, hcopy⟩ :=
    stateHeader_fields (UInt64.ofNat payload.length) c o r
      (crc32 (stateHeader (UInt64.ofNat payload.length) c o r 0))
      (payload ++ (stateTrailerMagic ++ (u32 (crc32 payload) ++ u32 0)))
  have hdrop : data.drop 64 =
      payload ++ (stateTrailerMagic ++ (u32 (crc32 payload) ++ u32 0)) := by
    rw [← hdata, drop_left' (length_stateHeader ..)]
  have htrailer : data.drop (64 + payload.length) =
      stateTrailerMagic ++ (u32 (crc32 payload) ++ u32 0) := by
    rw [← drop_drop, hdrop, drop_left]
  rw [hdata] at hmagic hversion hflags hpayload hc ho hr hcrc hcopy
  unfold openState
  simp only [hmagic, hversion, hflags, hpayload, hc, ho, hr, hcrc, hcopy, hexpected, hn, hlen,
    stateHeaderSize, stateTrailerSize, hdrop, htrailer, take_left,
    take_left' length_stateTrailerMagic, getU32_append rfl length_stateTrailerMagic]
  -- every check of the header and of the trailer passes, in order
  refine (failIf_bind (by omega)).trans ?_
  refine (failIf_bind (by simp)).trans ?_
  refine (failIf_bind (by simp)).trans ?_
  refine (failIf_bind (by simp)).trans ?_
  refine (failIf_bind (by simp)).trans ?_
  refine (failIf_bind (by rw [gt_iff_lt, UInt64.lt_iff_toNat_lt, hn]; omega)).trans ?_
  refine (failIf_bind (by omega)).trans ?_
  refine (failIf_bind (by omega)).trans ?_
  refine (failIf_bind (by simp)).trans ?_
  exact failIf_bind (by simp)

/-- A payload past the bounds is not accepted. -/
theorem length_le_of_openState (h : openState (sealState payload c o r) options = .ok x) :
    payload.length ≤ options.maxBytes.toNat ∧ payload.length + 80 < 2 ^ 64 := by
  have hfield : getU64 (sealState payload c o r) 16 = UInt64.ofNat payload.length := by
    rw [sealState]
    simp only [append_assoc]
    exact (stateHeader_fields _ _ _ _ _ _).2.2.2.1
  unfold openState at h
  rw [hfield, length_sealState] at h
  iterate 5 obtain ⟨_, _, h⟩ := bind_eq_ok.1 h
  obtain ⟨_, hbound, h⟩ := bind_eq_ok.1 h
  obtain ⟨_, hshort, h⟩ := bind_eq_ok.1 h
  obtain ⟨_, hlong, _⟩ := bind_eq_ok.1 h
  have hbound := UInt64.not_lt.1 (failIf_eq_ok.1 hbound)
  have hshort := failIf_eq_ok.1 hshort
  have hlong := failIf_eq_ok.1 hlong
  have hexpected := (UInt64.ofNat stateHeaderSize + UInt64.ofNat payload.length +
    UInt64.ofNat stateTrailerSize).toNat_lt
  have hn : (UInt64.ofNat payload.length).toNat = payload.length :=
    UInt64.toNat_ofNat_of_lt' (by rw [UInt64.size]; omega)
  rw [UInt64.le_iff_toNat_le, hn] at hbound
  exact ⟨hbound, by omega⟩

/-- A sealed payload that is accepted is recovered. -/
theorem openState_sealState_eq_ok (h : openState (sealState payload c o r) options = .ok x) :
    x = (payload, c, o, r) ∧ payload.length + 80 < 2 ^ 64 := by
  obtain ⟨hlength, hsize⟩ := length_le_of_openState h
  rw [openState_sealState c o r hlength hsize] at h
  exact ⟨(Except.ok.inj h).symm, hsize⟩

end CoherenceObservatory
