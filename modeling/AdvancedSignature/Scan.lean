import AdvancedSignature.Layout.Check
import AdvancedSignature.Text.Blank
import AdvancedSignature.Xml.Document

/-!
# Scanning documents

`Xml.Document.scan` reads the layout of each signature off a document.  The scan judges nothing:
it fails only on documents that no layout can be read from, and `ScannedSignature.check` holds
the layout to the structure rules.
-/

namespace AdvancedSignature

open Xml (Node Document)

/-- A signature of a document. -/
structure ScannedSignature where
  /-- The identifier of the signature element. -/
  id : Option String
  /-- Whether there are qualifying properties at all. -/
  isQualified : Bool
  layout : PropertyLayout
  deriving DecidableEq, Repr

namespace ScannedSignature

/-- Checks the structure of the signature. -/
def check (s : ScannedSignature) : Except Error Unit := s.layout.check

/-- The most complete form that the signature has. -/
def form? (s : ScannedSignature) : Option SignatureForm := s.layout.form?

/-- Checks that the signature has the form. -/
def checkForm (s : ScannedSignature) (f : SignatureForm) : Except Error Unit :=
  f.check s.layout.kinds

end ScannedSignature

namespace Scan

/-- Whether the node is an element of qualifying properties, in either version. -/
def isXades (n : Node) : Bool :=
  n.isElement && (n.namespaceUri == xadesNamespace || n.namespaceUri == xades141Namespace)

/-- Whether the node is such an element with the name. -/
def isXadesNamed (localName : String) (n : Node) : Bool := isXades n && n.localName == localName

/-- The children that are such elements with the name. -/
def xadesChildren (n : Node) (localName : String) : List Node :=
  n.children.filter (isXadesNamed localName)

/-! ## References -/

/-- The identifiers of the signed references, in document order.  The reference to the signed
properties is not one of them, nor is a reference without an identifier. -/
def referenceIds (signedInfo : Node) : List String :=
  (signedInfo.childrenNamed dsigNamespace ElementName.reference).filterMap fun r =>
    if r.attribute? AttributeName.type = some signedPropertiesType then none
    else r.attribute? AttributeName.id

/-- The identifiers, if they are distinct. -/
def distinctIds (ids : List String) : Except Error (List String) :=
  ids.foldlM (fun seen id =>
    if seen.contains id then .error (.duplicateDataObject id) else .ok (seen ++ [id])) []

/-! ## Properties -/

/-- The kind of a property element in a container. -/
def kindOf (property : Node) (container : PropertyGroup) : PropertyKind :=
  if isXades property then
    (PropertyKind.ofElementName? property.localName).getD container.otherKind
  else container.otherKind

/-- The entry of a commitment.  One for all data objects names no target. -/
def commitmentEntry (property : Node) (container : PropertyGroup) : LayoutEntry :=
  if (xadesChildren property ElementName.allSignedDataObjects).isEmpty then
    (xadesChildren property ElementName.objectReference).foldl
      (fun e r => e.withTarget (Blank.trim (r.text?.getD ""))) ⟨.commitmentType, container, []⟩
  else ⟨.allDataObjectsCommitmentType, container, []⟩

/-- The value of an attribute that must be there. -/
def requiredAttribute (n : Node) (element name : String) : Except Error String :=
  match n.attribute? name with
  | some value => .ok value
  | none => .error (.missingAttribute s!"{element}/@{name}")

/-- The entry of a property element in a container. -/
def entry (container : PropertyGroup) (property : Node) : Except Error LayoutEntry :=
  match kindOf property container with
  | .commitmentType => .ok (commitmentEntry property container)
  | .dataObjectFormat => do
      let target ← requiredAttribute property property.localName AttributeName.objectReference
      return LayoutEntry.withTarget ⟨.dataObjectFormat, container, []⟩ target
  | .individualDataObjectsTimeStamp =>
      (xadesChildren property ElementName.includeElement).foldlM (fun e i => do
        let target ← requiredAttribute i ElementName.includeElement AttributeName.uri
        return e.withTarget target) ⟨.individualDataObjectsTimeStamp, container, []⟩
  | kind => .ok ⟨kind, container, []⟩

/-! ## Containers -/

/-- The groups whose containers stand in a section with the name. -/
def sectionGroups (localName : String) : List PropertyGroup :=
  if localName = ElementName.signedProperties then [.signedSignature, .signedDataObject]
  else if localName = ElementName.unsignedProperties then [.unsignedSignature, .unsignedDataObject]
  else []

/-- The group of a container element in a section. -/
def groupOf? (groups : List PropertyGroup) (container : Node) : Option PropertyGroup :=
  groups.find? fun g => g.containerName == container.localName && isXades container

/-- The property elements of qualifying properties with their groups, in document order.
Unknown sections and containers are passed over. -/
def propertyElements (qualifying : Node) : List (PropertyGroup × Node) :=
  (qualifying.children.filter isXades).flatMap fun part =>
    (part.children.filter Node.isElement).flatMap fun container =>
      match groupOf? (sectionGroups part.localName) container with
      | some group => (container.children.filter Node.isElement).map fun p => (group, p)
      | none => []

/-- The first qualifying properties inside an object of the signature. -/
def qualifyingProperties? (signature : Node) : Option Node :=
  (signature.childrenNamed dsigNamespace ElementName.object).findSome? fun object =>
    object.children.find? (isXadesNamed ElementName.qualifyingProperties)

/-- Refuses qualifying properties that name another signature as their target. -/
def checkTarget (qualifying : Node) (signatureId : Option String) : Except Error Unit :=
  match qualifying.attribute? AttributeName.target, signatureId with
  | some target, some id =>
      if target = "#" ++ id then .ok ()
      else .error (.unresolvedTarget s!"QualifyingProperties -> {target}")
  | _, _ => .ok ()

/-! ## Signatures -/

/-- Reads the layout of a signature element. -/
def signature (element : Node) : Except Error ScannedSignature := do
  let id := element.attribute? AttributeName.id
  match element.child? dsigNamespace ElementName.signedInfo with
  | none => .error (.missingElement "ds:SignedInfo")
  | some signedInfo =>
      let references ← distinctIds (referenceIds signedInfo)
      match qualifyingProperties? element with
      | none => return ⟨id, false, ⟨references, []⟩⟩
      | some qualifying =>
          checkTarget qualifying id
          let entries ← (propertyElements qualifying).mapM fun p => entry p.1 p.2
          return ⟨id, true, ⟨references, entries⟩⟩

end Scan

namespace Xml.Document

/-- The signature elements, at any depth and in document order. -/
def signatureElements (d : Document) : List Node :=
  d.elementsNamed dsigNamespace ElementName.signature

/-- Reads the layout of every signature.  A document in which an identifier stands twice is
refused, because a property could point at a reference that it does not cover. -/
def scan (d : Document) : Except Error (List ScannedSignature) := do
  let _ ← d.idMap
  d.signatureElements.mapM Scan.signature

end Xml.Document

end AdvancedSignature
