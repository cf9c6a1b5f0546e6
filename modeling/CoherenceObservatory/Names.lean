import CoherenceObservatory.Taxonomy

/-!
# Enumerations by name

Texts name the values of an enumeration by a table, in upper or lower case. Writing a value and
reading it back is the identity, for values within the table and tables whose names differ by
more than their case (`parse_nameAt`). So the names of the kinds of resources, which the text of
a resource starts with, tell the kinds apart (`ResourceKind.toText_inj`).
-/

namespace CoherenceObservatory

/-- The upper case of an ASCII letter. -/
def upperByte (b : UInt8) : UInt8 := if 97 ≤ b ∧ b ≤ 122 then b - 32 else b

/-- `detail::iequals`. -/
def iequals (a b : Text) : Bool := a.map upperByte = b.map upperByte

theorem iequals_eq_true {a b : Text} : iequals a b = true ↔ a.map upperByte = b.map upperByte :=
  decide_eq_true_iff

/-- `parse_from_table`. The parsers that are written out in the source are the same. -/
def parseFromTable (names : List String) (what : String) (text : Text) : Except Error UInt8 :=
  match names.findIdx? fun name => iequals (ascii name) text with
  | some i => .ok (.ofNat i)
  | none => .error ⟨.invalidArgument, ascii "unknown " ++ ascii what, text⟩

/-- `parse_resource_kind`. -/
def parseResourceKind (text : Text) : Except Error ResourceKind :=
  (parseFromTable ResourceKind.names "resource kind" text).map .mk

/-! ## Reading back -/

/-- The names of a table differ by more than their case. -/
def IsTable (names : List String) : Prop :=
  (names.map fun name => (ascii name).map upperByte).Nodup

section

variable {names : List String} {fallback what : String} {raw : UInt8}

/-- What holds of all names of a table holds of every name that is written. -/
theorem nameAt_of_forall {P : Text → Prop} (h : ∀ name ∈ fallback :: names, P (ascii name))
    (raw : UInt8) : P (nameAt names fallback raw) := by
  rw [nameAt]
  cases hname : names[raw.toNat]? with
  | none => exact h _ List.mem_cons_self
  | some name => exact h _ (List.mem_cons_of_mem _ (List.mem_of_getElem? hname))

theorem nameAt_eq (hraw : raw.toNat < names.length) :
    nameAt names fallback raw = ascii names[raw.toNat] := by
  rw [nameAt, List.getElem?_eq_getElem hraw, Option.getD_some]

/-- A value that is written by its name is read back. -/
theorem parse_nameAt {α : Type} (f : UInt8 → α) (htable : IsTable names)
    (hraw : raw.toNat < names.length) :
    (parseFromTable names what (nameAt names fallback raw)).map f = .ok (f raw) := by
  have hfind : (names.findIdx? fun name => iequals (ascii name) (nameAt names fallback raw)) =
      some raw.toNat := by
    rw [List.findIdx?_eq_some_iff_getElem]
    refine ⟨hraw, ?_, fun j hj => ?_⟩
    · rw [nameAt_eq hraw]
      exact iequals_eq_true.2 rfl
    · -- an earlier name is another one
      rw [nameAt_eq hraw, iequals_eq_true]
      intro heq
      refine List.pairwise_iff_getElem.1 htable j raw.toNat ?_ ?_ hj ?_
      · rw [List.length_map]
        exact hj.trans hraw
      · rwa [List.length_map]
      · simpa using heq
  rw [parseFromTable, hfind]
  exact congrArg (fun raw => Except.ok (f raw)) UInt8.ofNat_toNat

end

namespace ResourceKind

theorem isTable : IsTable names := by
  rw [IsTable]
  decide

/-- Declared kinds have names of their own. -/
theorem toText_inj {kind kind' : ResourceKind} (h : kind.raw ≤ 5) (h' : kind'.raw ≤ 5)
    (heq : kind.toText = kind'.toText) : kind = kind' := by
  have hparse (k : ResourceKind) (hk : k.raw ≤ 5) : parseResourceKind k.toText = .ok k :=
    parse_nameAt _ isTable (Nat.lt_succ_of_le (UInt8.le_iff_toNat_le.1 hk))
  exact Except.ok.inj ((hparse kind h).symm.trans (heq ▸ hparse kind' h'))

/-- No name of a kind holds the mark that follows it. -/
theorem colon_not_mem_toText (kind : ResourceKind) : 58 ∉ kind.toText :=
  nameAt_of_forall (P := fun text => 58 ∉ text) (by decide) kind.raw

end ResourceKind

end CoherenceObservatory
