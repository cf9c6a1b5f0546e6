import CoherenceObservatory.Checksum
import CoherenceObservatory.Persistence.Loadable

/-!
# Corrupted state files

One byte of a saved file is replaced by another. Up to the last four bytes every position is
covered: the header and the payload by their checksums, the checksums themselves and the trailer's
magic by the comparison with what they have to be. The last word of the trailer is written but
never read.
-/

namespace CoherenceObservatory

open Codec PayloadWriter List

/-! ## Coverage -/

/-- The header with its checksum field zero. -/
def headerCopy (data : List UInt8) : List UInt8 :=
  data.take 48 ++ u32 0 ++ (data.drop 52).take 12

/-- What an envelope with a payload of `n` bytes has to satisfy. -/
structure Enveloped (data : List UInt8) (n : Nat) : Prop where
  header_crc : crc32 (headerCopy data) = getU32 data 48
  length_eq : data.length = n + 80
  trailer_magic : (data.drop (64 + n)).take 8 = stateTrailerMagic
  payload_crc : crc32 ((data.drop 64).take n) = getU32 data (64 + n + 8)

variable {data : List UInt8} {options : PersistenceOptions}
  {x : List UInt8 × UInt64 × UInt64 × UInt64} {i : Nat} {b : UInt8}

theorem enveloped_of_openState (hmax : options.maxBytes.toNat + 80 < 2 ^ 64)
    (h : openState data options = .ok x) : Enveloped data (getU64 data 16).toNat := by
  unfold openState at h
  iterate 4 obtain ⟨_, _, h⟩ := bind_eq_ok.1 h
  obtain ⟨_, hcrc, h⟩ := bind_eq_ok.1 h
  obtain ⟨_, hbound, h⟩ := bind_eq_ok.1 h
  obtain ⟨_, hshort, h⟩ := bind_eq_ok.1 h
  obtain ⟨_, hlong, h⟩ := bind_eq_ok.1 h
  obtain ⟨_, hmagic, h⟩ := bind_eq_ok.1 h
  obtain ⟨_, hpayload, h⟩ := bind_eq_ok.1 h
  have hbound := UInt64.le_iff_toNat_le.1 (UInt64.not_lt.1 (failIf_eq_ok.1 hbound))
  have hshort := failIf_eq_ok.1 hshort
  have hlong := failIf_eq_ok.1 hlong
  rw [toNat_expected (by omega)] at hshort hlong
  have hpayload := not_not.1 (failIf_eq_ok.1 hpayload)
  rw [getU32, drop_drop] at hpayload
  exact ⟨not_not.1 (failIf_eq_ok.1 hcrc), by omega, not_not.1 (failIf_eq_ok.1 hmagic), hpayload⟩

/-- What a seal writes. -/
theorem enveloped_sealState (payload : List UInt8) (c o r : UInt64) :
    Enveloped (sealState payload c o r) payload.length ∧
      getU64 (sealState payload c o r) 16 = UInt64.ofNat payload.length := by
  have hlength := length_sealState payload c o r
  generalize hdata : sealState payload c o r = data at hlength ⊢
  rw [sealState] at hdata
  simp only [append_assoc] at hdata
  obtain ⟨-, -, -, hn, -, -, -, hcrc, hcopy⟩ :=
    stateHeader_fields (UInt64.ofNat payload.length) c o r
      (crc32 (stateHeader (UInt64.ofNat payload.length) c o r 0))
      (payload ++ (stateTrailerMagic ++ (u32 (crc32 payload) ++ u32 0)))
  rw [hdata] at hn hcrc hcopy
  have hdrop : data.drop 64 =
      payload ++ (stateTrailerMagic ++ (u32 (crc32 payload) ++ u32 0)) := by
    rw [← hdata, drop_left' (length_stateHeader ..)]
  have htrailer : data.drop (64 + payload.length) =
      stateTrailerMagic ++ (u32 (crc32 payload) ++ u32 0) := by
    rw [← drop_drop, hdrop, drop_left]
  have hfield : getU32 data (64 + payload.length + 8) = crc32 payload := by
    have := getU32_append htrailer length_stateTrailerMagic
    rwa [getU32, drop_drop] at this
  refine ⟨⟨?_, hlength, ?_, ?_⟩, hn⟩
  · rw [headerCopy, hcopy, hcrc]
  · rw [htrailer, take_left' length_stateTrailerMagic]
  · rw [hdrop, take_left, hfield]

section

variable {data : List UInt8} {i : Nat} {b : UInt8}

theorem length_headerCopy (h : 64 ≤ data.length) : (headerCopy data).length = 64 := by
  simp only [headerCopy, length_append, length_take, length_drop,
    length_u32]
  omega

/-- Outside the checksum field the copy follows the header. -/
theorem headerCopy_set (h : 64 ≤ data.length) (hi : i < 48 ∨ 52 ≤ i ∧ i < 64) :
    headerCopy (data.set i b) = (headerCopy data).set i b ∧ (headerCopy data)[i]? = data[i]? := by
  have hleft : (data.take 48 ++ u32 0).length = 52 := by
    rw [length_append, length_take, length_u32]
    omega
  unfold headerCopy
  rcases hi with hi | hi
  · rw [take_set, slice_set_of_outside _ _ (.inl (by omega)), set_append_left _ _ (by omega),
      set_append_left _ _ (by rw [length_take]; omega)]
    refine ⟨rfl, ?_⟩
    rw [getElem?_append_left (by omega),
      getElem?_append_left (by rw [length_take]; omega), getElem?_take, if_pos hi]
  · rw [take_set_of_ge _ (by omega), slice_set_of_inside _ _ hi.1, set_append_right _ _ (by omega),
      hleft]
    refine ⟨rfl, ?_⟩
    rw [getElem?_append_right (by omega), hleft, getElem?_take, if_pos (by omega),
      getElem?_drop, Nat.add_sub_cancel' hi.1]

/-- A change in the header is a change under its checksum or a change of the checksum. -/
theorem header_crc_set_ne (h : 64 ≤ data.length) (hlt : i < 64) (hi : i < data.length)
    (hb : b ≠ data[i]) (hcrc : crc32 (headerCopy data) = getU32 data 48) :
    crc32 (headerCopy (data.set i b)) ≠ getU32 (data.set i b) 48 := by
  by_cases hfield : 48 ≤ i ∧ i < 52
  · have hcopy : headerCopy (data.set i b) = headerCopy data := by
      rw [headerCopy, take_set_of_ge _ hfield.1, slice_set_of_outside _ _ (.inl hfield.2), headerCopy]
    rw [hcopy, hcrc]
    exact (getU32_set_ne _ hfield.1 (by omega) hi hb).symm
  · obtain ⟨hset, hget⟩ := headerCopy_set (b := b) h (show i < 48 ∨ 52 ≤ i ∧ i < 64 by omega)
    have hi' : i < (headerCopy data).length := by rw [length_headerCopy h]; exact hlt
    rw [getElem?_eq_getElem hi', getElem?_eq_getElem hi] at hget
    rw [hset, getU32_set_of_outside _ (by omega), ← hcrc]
    exact crc32_set_ne hi' (Option.some.inj hget ▸ hb)

/-- Before the last word, a change leaves nothing that could be accepted. -/
theorem Enveloped.not_set {n n' : Nat} (h : Enveloped data n) (hi : i + 4 < data.length)
    (hb : b ≠ data[i]) (hn : 64 ≤ i → n' = n) : ¬Enveloped (data.set i b) n' := by
  intro h'
  have hlength := h.length_eq
  have hi' : i < data.length := by omega
  by_cases hheader : i < 64
  · exact header_crc_set_ne (by omega) hheader hi' hb h.header_crc h'.header_crc
  obtain rfl := hn (by omega)
  by_cases hpayload : i < 64 + n'
  · have hcrc := h'.payload_crc
    have hlt : i - 64 < ((data.drop 64).take n').length := by
      rw [length_take, length_drop]
      omega
    rw [getU32_set_of_outside _ (by omega), ← h.payload_crc, slice_set_of_inside _ _ (by omega)] at hcrc
    refine crc32_set_ne hlt ?_ hcrc
    simpa [getElem_take, getElem_drop, Nat.add_sub_cancel' (Nat.le_of_not_lt hheader)]
      using hb
  by_cases hmagic : i < 64 + n' + 8
  · exact slice_set_ne _ _ (by omega) hmagic hi' hb (h'.trailer_magic.trans h.trailer_magic.symm)
  · have hcrc := h'.payload_crc
    rw [slice_set_of_outside _ _ (.inr (by omega)), h.payload_crc] at hcrc
    exact getU32_set_ne _ (by omega) (by omega) hi' hb hcrc.symm

end

/-! ## Saved files -/

/-- A change before the last word of the trailer is refused. -/
theorem openState_set_ne_ok {payload : List UInt8} {c o r : UInt64}
    (hmax : options.maxBytes.toNat + 80 < 2 ^ 64) (hi : i + 4 < (sealState payload c o r).length)
    (hb : b ≠ (sealState payload c o r)[i]) :
    openState ((sealState payload c o r).set i b) options ≠ .ok x := by
  intro h
  obtain ⟨hsealed, hfield⟩ := enveloped_sealState payload c o r
  have hopened := enveloped_of_openState hmax h
  refine hsealed.not_set hi hb (fun hge => ?_) hopened
  -- outside the header the declared length is still the true one
  have hlength := hopened.length_eq
  rw [length_set, hsealed.length_eq] at hlength
  omega

/-- The last word of the trailer is not looked at. -/
theorem openState_set_of_ge (hi : 64 + (getU64 data 16).toNat + 12 ≤ i) :
    openState (data.set i b) options = openState data options := by
  have hcrc : getU32 ((data.set i b).drop (64 + (getU64 data 16).toNat)) 8 =
      getU32 (data.drop (64 + (getU64 data 16).toNat)) 8 := by
    rw [getU32, getU32, drop_drop, drop_drop, slice_set_of_outside _ _ (.inr (by omega))]
  unfold openState
  simp only [Limits.stateHeaderSize, length_set, take_set_of_ge 8 (show 8 ≤ i by omega),
    take_set_of_ge 48 (show 48 ≤ i by omega), getU32_set_of_outside 8 (.inr (show _ ≤ i by omega)),
    getU32_set_of_outside 12 (.inr (show _ ≤ i by omega)),
    getU32_set_of_outside 48 (.inr (show _ ≤ i by omega)),
    getU64_set_of_outside 16 (.inr (show _ ≤ i by omega)),
    getU64_set_of_outside 24 (.inr (show _ ≤ i by omega)),
    getU64_set_of_outside 32 (.inr (show _ ≤ i by omega)),
    getU64_set_of_outside 40 (.inr (show _ ≤ i by omega)),
    slice_set_of_outside 52 12 (.inr (show _ ≤ i by omega)),
    slice_set_of_outside 64 (getU64 data 16).toNat (.inr (show _ ≤ i by omega)),
    slice_set_of_outside (64 + (getU64 data 16).toNat) 8 (.inr (show _ ≤ i by omega)), hcrc]
  rfl

/-- What becomes of a sealed payload with one byte changed. -/
theorem parseState_set_sealState (payload : List UInt8) (c o r : UInt64)
    (hi : i < (sealState payload c o r).length) (hb : b ≠ (sealState payload c o r)[i]) :
    if i + 4 < (sealState payload c o r).length
    then ∃ e, parseState ((sealState payload c o r).set i b) = .error e
    else parseState ((sealState payload c o r).set i b) = parseState (sealState payload c o r) := by
  have hmax : ({} : PersistenceOptions).maxBytes.toNat + 80 < 2 ^ 64 := by decide
  split
  · next hlast =>
    cases hopen : openState ((sealState payload c o r).set i b) {} with
    | ok x => exact absurd hopen (openState_set_ne_ok hmax hlast hb)
    | error e => exact ⟨e, by rw [parseState, hopen]; rfl⟩
  · next hlast =>
    obtain ⟨hsealed, hfield⟩ := enveloped_sealState payload c o r
    have hlength := hsealed.length_eq
    have hmod : (getU64 (sealState payload c o r) 16).toNat ≤ payload.length := by
      rw [hfield, UInt64.toNat_ofNat']
      exact Nat.mod_le _ _
    rw [parseState, openState_set_of_ge (by omega), parseState]

/-- A changed byte of a saved file is noticed unless it is one of the last four, and then the file
    is read as if it were intact. -/
theorem corruption_refused_iff (s : State) (saved : PersistenceOptions) (i : Nat) (b : UInt8)
    (hi : i < (saveState s saved).length) (hb : b ≠ (saveState s saved)[i]) :
    (∃ e, parseState ((saveState s saved).set i b) = .error e) ↔
      i + 4 < (saveState s saved).length ∨ ∃ e, parseState (saveState s saved) = .error e := by
  have h := parseState_set_sealState _ _ _ _ hi hb
  split at h
  · next hlast => exact iff_of_true h (.inl hlast)
  · next hlast =>
    have hparse : parseState ((saveState s saved).set i b) = parseState (saveState s saved) := h
    rw [hparse]
    exact (or_iff_right hlast).symm

theorem head_sealState (payload : List UInt8) (c o r : UInt64) :
    (sealState payload c o r)[0]? = some 67 := rfl

theorem getLast_sealState (payload : List UInt8) (c o r : UInt64) :
    (sealState payload c o r)[(sealState payload c o r).length - 1]? = some 0 := by
  rw [← getLast?_eq_getElem?, sealState, ← append_assoc, getLast?_append]
  rfl

/-- The first byte of a fresh save is zeroed. -/
theorem corruption_refused_first :
    ∃ e, parseState ((saveState (State.initial {} 0)).set 0 0) = .error e := by
  have hlength : (saveState (State.initial {} 0)).length = _ := length_sealState _ _ _ _
  have hi : 0 < (saveState (State.initial {} 0)).length := by omega
  refine (corruption_refused_iff (State.initial {} 0) {} 0 0 hi fun h => ?_).2 (.inl (by omega))
  have hhead : (saveState (State.initial {} 0))[0]? = some 67 := head_sealState _ _ _ _
  rw [List.getElem?_eq_getElem hi, ← h] at hhead
  exact absurd hhead (by decide)

/-- The last byte of a file can be any other. -/
theorem parseState_set_last (payload : List UInt8) (c o r : UInt64) :
    parseState ((sealState payload c o r).set ((sealState payload c o r).length - 1) 1) =
      parseState (sealState payload c o r) := by
  have hlength := length_sealState payload c o r
  have hlast := getLast_sealState payload c o r
  have hi : (sealState payload c o r).length - 1 < (sealState payload c o r).length := by omega
  rw [getElem?_eq_getElem hi] at hlast
  have hset := parseState_set_sealState payload c o r hi (b := 1) (by
    rw [Option.some.inj hlast]
    decide)
  rwa [if_neg (by omega)] at hset

/-- So it is with the last byte of a saved file, a zero. -/
theorem saveState_set_last (s : State) (saved : PersistenceOptions) :
    (saveState s saved)[(saveState s saved).length - 1]? = some 0 ∧
      parseState ((saveState s saved).set ((saveState s saved).length - 1) 1) =
        parseState (saveState s saved) :=
  ⟨getLast_sealState _ _ _ _, parseState_set_last _ _ _ _⟩

/-- The last byte of a save is not covered by any check. -/
theorem lastByte_unnoticed :
    ∃ data staged, data = saveState (State.initial {} 0) ∧ data[data.length - 1]? = some 0 ∧
      parseState (data.set (data.length - 1) 1) = .ok staged := by
  obtain ⟨hlast, hset⟩ := saveState_set_last (State.initial {} 0) {}
  have hsavable := savable_initial 0
  refine ⟨_, stagedOf (State.initial {} 0), rfl, hlast, hset.trans ?_⟩
  rw [parseState_saveState hsavable.encodable, checkReferences_stagedOf.2 hsavable.linked]
  rfl

end CoherenceObservatory
