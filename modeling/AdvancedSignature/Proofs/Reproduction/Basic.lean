import AdvancedSignature.Declaration.Run
import AdvancedSignature.Property.Signature

/-!
# Producing a layout anew

What an application does to produce the properties of a layout that it has found: it describes a
data object for every reference, and for every entry it makes a property (`Cast`) and puts it where
the entry stands.  `PropertyLayout.reproduce` stops at the first call that is not accepted.
-/

namespace AdvancedSignature

/-- The properties that are made for the entries of a layout, by position. -/
structure Cast where
  signedSignature : Nat → SignedSignatureProperty
  unsignedSignature : Nat → UnsignedSignatureProperty
  dataObject : Nat → DataObjectProperty

namespace Cast

/-- The property made for an entry is of its kind.  Of a catch-all kind it is for all data objects
if the entry has no targets. -/
structure Plays (cast : Cast) (e : LayoutEntry × Nat) : Prop where
  signedSignature : e.1.kind.group = .signedSignature →
    (cast.signedSignature e.2).kind = e.1.kind
  unsignedSignature : e.1.kind.group = .unsignedSignature →
    (cast.unsignedSignature e.2).kind = e.1.kind
  dataObject : e.1.kind.isSignatureLevel = false → (cast.dataObject e.2).kind = e.1.kind
  multiplicity : e.1.kind.isSignatureLevel = false → (cast.dataObject e.2).multiplicity =
    if e.1.kind.isOther ∧ e.1.targets = [] then .all else e.1.kind.multiplicity

/-- Every entry of the layout has a property of its own, as it should be. -/
structure Fits (cast : Cast) (l : PropertyLayout) : Prop where
  signedSignature : Function.Injective cast.signedSignature
  unsignedSignature : Function.Injective cast.unsignedSignature
  dataObject : Function.Injective cast.dataObject
  plays : ∀ e ∈ l.entries.zipIdx, cast.Plays e

end Cast

/-! ## A cast for every layout -/

namespace SignedSignatureContent

/-- Some content of a signed signature-level kind. -/
def ofKind : PropertyKind → SignedSignatureContent
  | .signingTime => .signingTime ⟨1970, 1, 1, 0, 0, 0, by decide, by decide, by decide⟩
  | .signatureProductionPlace => .productionPlace {}
  | .signerRole => .signerRole {}
  | .signingCertificate => .signingCertificate ⟨[]⟩
  | .signaturePolicy => .policy .implied
  | _ => .other ⟨"", ""⟩

theorem kind_ofKind {k : PropertyKind} (h : k.group = .signedSignature) : (ofKind k).kind = k := by
  cases k <;> first | rfl | cases h

end SignedSignatureContent

namespace UnsignedSignatureContent

/-- Some content of an unsigned signature-level kind. -/
def ofKind : PropertyKind → UnsignedSignatureContent
  | .counterSignature => .counterSignature ""
  | .signatureTimeStamp => .signatureTimeStamp ⟨"", []⟩
  | .completeCertificateRefs => .completeCertificateRefs []
  | .completeRevocationRefs => .completeRevocationRefs []
  | .attrAuthoritiesCertValues => .attrAuthoritiesCertValues []
  | .attributeRevocationValues => .attributeRevocationValues []
  | .sigAndRefsTimeStamp => .sigAndRefsTimeStamp ⟨"", []⟩
  | .certificateValues => .certificateValues []
  | .revocationValues => .revocationValues []
  | .archiveTimeStamp => .archiveTimeStamp ⟨"", []⟩
  | .timeStampValidationData => .timeStampValidationData [] []
  | _ => .other ⟨"", ""⟩

theorem kind_ofKind {k : PropertyKind} (h : k.group = .unsignedSignature) :
    (ofKind k).kind = k := by
  cases k <;> first | rfl | cases h

end UnsignedSignatureContent

namespace DataObjectContent

/-- Some content of a data-object kind, with a multiplicity for the kinds that leave it open. -/
def ofKind (multiplicity : Multiplicity) : PropertyKind → DataObjectContent
  | .dataObjectFormat => .format {}
  | .commitmentType => .commitment { uri := "" }
  | .allDataObjectsCommitmentType => .commitmentForAll { uri := "" }
  | .individualDataObjectsTimeStamp => .timeStamp ⟨.individualDataObjects, ⟨"", []⟩⟩
  | .allDataObjectsTimeStamp => .timeStamp ⟨.allDataObjects, ⟨"", []⟩⟩
  | .otherSignedDataObject => .other ⟨"", "", true, multiplicity⟩
  | _ => .other ⟨"", "", false, multiplicity⟩

theorem kind_ofKind {k : PropertyKind} (h : k.isSignatureLevel = false) (m : Multiplicity) :
    (ofKind m k).kind = k := by
  cases k <;> first | rfl | cases h

theorem multiplicity_ofKind {k : PropertyKind} (h : k.isSignatureLevel = false)
    (m : Multiplicity) :
    (ofKind m k).multiplicity = if k.isOther = true then m else k.multiplicity := by
  cases k <;> first | rfl | cases h

end DataObjectContent

namespace Cast

/-- The entry in a position, or one that does not matter. -/
def entryAt (l : PropertyLayout) (n : Nat) : LayoutEntry :=
  l.entries[n]?.getD ⟨.otherSignedSignature, .signedSignature, []⟩

/-- Properties for the entries of a layout, with the positions as their identities. -/
def ofLayout (l : PropertyLayout) : Cast where
  signedSignature n := ⟨⟨n⟩, .ofKind (entryAt l n).kind⟩
  unsignedSignature n := ⟨⟨n⟩, .ofKind (entryAt l n).kind⟩
  dataObject n :=
    ⟨⟨n⟩, .ofKind (if (entryAt l n).targets = [] then .all else .many) (entryAt l n).kind⟩

/-- **Every layout has a cast.** -/
theorem fits_ofLayout (l : PropertyLayout) : (ofLayout l).Fits l where
  signedSignature _ _ h := congrArg (fun p => p.id.val) h
  unsignedSignature _ _ h := congrArg (fun p => p.id.val) h
  dataObject _ _ h := congrArg (fun p => p.id.val) h
  plays := by
    rintro ⟨e, n⟩ he
    have hget : entryAt l n = e := by
      rw [entryAt, (List.mk_mem_zipIdx_iff_getElem?).1 he]
      rfl
    constructor
    · intro hg
      simp only [ofLayout, hget]
      exact SignedSignatureContent.kind_ofKind hg
    · intro hg
      simp only [ofLayout, hget]
      exact UnsignedSignatureContent.kind_ofKind hg
    · intro hlevel
      simp only [ofLayout, hget]
      exact DataObjectContent.kind_ofKind hlevel _
    · intro hlevel
      simp only [ofLayout, hget]
      refine (DataObjectContent.multiplicity_ofKind hlevel _).trans ?_
      by_cases hother : e.kind.isOther = true
      · have hmany : e.kind.multiplicity = .many := by
          revert hother
          cases e.kind <;> decide
        simp [hother, hmany]
      · simp [hother]

end Cast

/-! ## Producing -/

namespace Declarations

/-- Carries out an action that must be accepted. -/
def attempt (s : Declarations) (a : Action) : Except Outcome Declarations :=
  match s.perform a with
  | (.accepted, next) => .ok next
  | (outcome, _) => .error outcome

/-- Gives a property to the description under the reference.  A property for all data objects is
given to none, but its target can be asked for. -/
def pointTo (p : DataObjectProperty) (s : Declarations) (reference : String) :
    Except Outcome Declarations :=
  match s.descriptions.find? fun d => d.referenceId == reference with
  | none => .error .unknown
  | some d => s.attempt (if p.multiplicity = .all then .attach p d.id else .declare d.id p)

/-- Declares the property of a data-object entry: on every target, or else for all data objects of
the one collection. -/
def declareEntry (s : Declarations) (p : DataObjectProperty) (e : LayoutEntry) :
    Except Outcome Declarations :=
  if e.targets = [] then
    if p.multiplicity = .all then s.attempt (.declareForAll 0 p)
    else .error (.refused (.missingTarget e.kind))
  else e.targets.foldlM (pointTo p) s

end Declarations

/-- The containers that are filled for a layout. -/
structure Reproduction where
  declarations : Declarations
  signedSignature : Bag SignedSignatureProperty := {}
  unsignedSignature : Bag UnsignedSignatureProperty := {}

namespace Reproduction

/-- A description for every reference, where `first` is the next free number of a data object, and
one collection. -/
def start (uri : String → String) (first : Nat) (references : List String) : Reproduction :=
  let actions := references.map (fun r => .describeAs r (uri r)) ++ [.openCollection]
  { declarations := Declarations.run { nextDataObject := first } actions }

/-- Puts the property of an entry where the entry stands. -/
def entry (cast : Cast) (r : Reproduction) (e : LayoutEntry × Nat) :
    Except Outcome Reproduction :=
  match e.1.kind.group with
  | .signedSignature =>
      match r.signedSignature.putOrAdd (cast.signedSignature e.2) with
      | .ok bag => .ok { r with signedSignature := bag }
      | .error error => .error (.refused error)
  | .unsignedSignature =>
      match r.unsignedSignature.putOrAdd (cast.unsignedSignature e.2) with
      | .ok bag => .ok { r with unsignedSignature := bag }
      | .error error => .error (.refused error)
  | .signedDataObject | .unsignedDataObject => do
      let declarations ← r.declarations.declareEntry (cast.dataObject e.2) e.1
      return { r with declarations }

end Reproduction

/-- Produces the properties of the layout, as far as they are accepted. -/
def PropertyLayout.reproduce (cast : Cast) (uri : String → String) (first : Nat)
    (l : PropertyLayout) : Except Outcome Reproduction :=
  l.entries.zipIdx.foldlM (Reproduction.entry cast) (.start uri first l.references)

end AdvancedSignature
