/-!
# Vocabulary

The namespaces, element names and attribute names of signed documents.
-/

namespace AdvancedSignature

/-! ## Namespaces -/

/-- XML digital signatures. -/
def dsigNamespace : String := "http://www.w3.org/2000/09/xmldsig#"

/-- Qualifying properties, version 1.3.2. -/
def xadesNamespace : String := "http://uri.etsi.org/01903/v1.3.2#"

/-- Qualifying properties, version 1.4.1. -/
def xades141Namespace : String := "http://uri.etsi.org/01903/v1.4.1#"

/-- The namespaces in which elements are looked for. -/
def namespaces : List String := [dsigNamespace, xadesNamespace, xades141Namespace]

/-- The type of the reference that covers the signed properties. -/
def signedPropertiesType : String := "http://uri.etsi.org/01903#SignedProperties"

/-! ## Elements -/

namespace ElementName

/-- A signature. -/
def signature : String := "Signature"

/-- What is signed: the references and how they are digested. -/
def signedInfo : String := "SignedInfo"

/-- A container inside a signature. -/
def object : String := "Object"

/-- A reference to a signed data object. -/
def reference : String := "Reference"

/-- The properties of a signature. -/
def qualifyingProperties : String := "QualifyingProperties"

/-- The properties that the signature covers. -/
def signedProperties : String := "SignedProperties"

/-- The properties that it does not cover. -/
def unsignedProperties : String := "UnsignedProperties"

/-- The data object that a commitment is about. -/
def objectReference : String := "ObjectReference"

/-- Says that a commitment is about all signed data objects. -/
def allSignedDataObjects : String := "AllSignedDataObjects"

/-- A data object that a time-stamp covers. -/
def includeElement : String := "Include"

end ElementName

/-! ## Attributes -/

namespace AttributeName

/-- The identifier of an element. -/
def id : String := "Id"

/-- What a reference refers to. -/
def uri : String := "URI"

/-- The type of what a reference refers to. -/
def type : String := "Type"

/-- The signature that the properties qualify. -/
def target : String := "Target"

/-- The data object whose format is described. -/
def objectReference : String := "ObjectReference"

/-- The spellings under which an element may carry an identifier, in the order they are read. -/
def identifiers : List String := ["Id", "ID", "id"]

end AttributeName

end AdvancedSignature
