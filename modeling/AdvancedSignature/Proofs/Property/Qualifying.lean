import AdvancedSignature.Property.Qualifying

/-!
# Where properties belong

The kinds of signature-level properties are of the group of their container.  So are those of
data-object properties, as long as time-stamps among them are about data objects
(`DataObjectProperty.IsWellMade`).
-/

namespace AdvancedSignature

theorem SignedSignatureProperty.group_kind (p : SignedSignatureProperty) :
    p.kind.group = .signedSignature := by
  obtain ⟨id, content⟩ := p
  cases content <;> rfl

theorem UnsignedSignatureProperty.group_kind (p : UnsignedSignatureProperty) :
    p.kind.group = .unsignedSignature := by
  obtain ⟨id, content⟩ := p
  cases content <;> rfl

theorem SignedSignatureProperty.kind_ne (p : SignedSignatureProperty)
    (u : UnsignedSignatureProperty) : p.kind ≠ u.kind := by
  intro hkind
  have hgroup := p.group_kind
  rw [hkind, u.group_kind] at hgroup
  cases hgroup

namespace DataObjectProperty

/-- A time-stamp is about individual data objects or about all of them. -/
def IsWellMade (p : DataObjectProperty) : Prop :=
  ∀ d, p.timeStamp? = some d → d.kind = .individualDataObjects ∨ d.kind = .allDataObjects

variable {p : DataObjectProperty}

theorem IsWellMade.isSignatureLevel_kind (h : p.IsWellMade) : p.kind.isSignatureLevel = false := by
  obtain ⟨id, content⟩ := p
  cases content with
  | format | commitment | commitmentForAll => rfl
  | timeStamp d =>
    obtain ⟨kind, canonicalization⟩ := d
    rcases h _ rfl with rfl | rfl <;> rfl
  | other o =>
    simp only [kind, DataObjectContent.kind]
    split <;> rfl

/-- The kind is of the signed group unless it is the unsigned one. -/
theorem IsWellMade.group_kind (h : p.IsWellMade) :
    p.kind.group =
      if p.kind = .otherUnsignedDataObject then .unsignedDataObject else .signedDataObject := by
  have hlevel := h.isSignatureLevel_kind
  revert hlevel
  cases p.kind <;> decide

/-- A property that declares a time-stamp has its kind. -/
theorem kind_of_timeStamp? {d : TimeStampDeclaration} (h : p.timeStamp? = some d) :
    p.kind = d.kind.kind := by
  obtain ⟨id, content⟩ := p
  cases content <;> cases h
  rfl

/-- A time-stamp that is not about data objects is about the signature, and unsigned. -/
theorem exists_stamp_of_not_isWellMade (h : ¬ p.IsWellMade) :
    ∃ d, p.timeStamp? = some d ∧ p.kind = d.kind.kind ∧
      d.kind.kind.group = .unsignedSignature := by
  obtain ⟨d, hd, hkind⟩ : ∃ d, p.timeStamp? = some d ∧
      ¬ (d.kind = .individualDataObjects ∨ d.kind = .allDataObjects) := by
    simpa only [IsWellMade, Classical.not_forall, exists_prop] using h
  refine ⟨d, hd, kind_of_timeStamp? hd, ?_⟩
  revert hkind
  cases d.kind <;> simp [TimeStampKind.kind, PropertyKind.group]

/-- Only time-stamps on the signature have a kind of the signature. -/
theorem isWellMade_iff : p.IsWellMade ↔ p.kind.isSignatureLevel = false := by
  refine ⟨IsWellMade.isSignatureLevel_kind, fun hlevel => Classical.byContradiction fun hmade => ?_⟩
  obtain ⟨d, -, hkind, hgroup⟩ := exists_stamp_of_not_isWellMade hmade
  rw [PropertyKind.isSignatureLevel, hkind, hgroup] at hlevel
  cases hlevel

theorem group_kind_eq_signed_iff (h : p.kind ≠ .otherUnsignedDataObject) :
    p.kind.group = .signedDataObject ↔ p.IsWellMade := by
  rw [isWellMade_iff]
  revert h
  cases p.kind <;> simp [PropertyKind.group, PropertyKind.isSignatureLevel,
    PropertyGroup.isSignatureLevel]

/-- Only a property of a catch-all kind chooses its multiplicity. -/
theorem multiplicity_eq (h : p.kind.isOther = false) : p.multiplicity = p.kind.multiplicity := by
  obtain ⟨id, content⟩ := p
  cases content with
  | other o =>
    simp only [kind, DataObjectContent.kind] at h
    split at h <;> cases h
  | _ => rfl

end DataObjectProperty

end AdvancedSignature
