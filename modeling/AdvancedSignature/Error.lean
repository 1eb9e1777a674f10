import AdvancedSignature.Property.Kind
import AdvancedSignature.Form

/-!
# Errors

Why an operation is refused.  `Error` lists the causes, `Error.message` words them,
`Error.isStructural` marks those in which the caller asked for an illegal structure, and
`Error.source?` gives the words of an external collaborator when the error only passes them on.
-/

namespace AdvancedSignature

/-- Where a misplaced property was put. -/
inductive Placement where
  /-- In the container of a group. -/
  | group (g : PropertyGroup)
  /-- Among the properties of all signed data objects. -/
  | allDataObjects
  deriving DecidableEq, Repr

/-- What is wrong with the text of a document. -/
inductive XmlFault where
  /-- The bytes are not UTF-8. -/
  | invalidUtf8
  /-- The text is not well-formed. -/
  | malformed (reason : String)
  /-- Two identifiers have the same value. -/
  | duplicateId (value : String)
  deriving DecidableEq, Repr

/-- The causes of a refusal. -/
inductive Error where
  | duplicatePropertyKind (kind : PropertyKind)
  | duplicateInstance (kind : PropertyKind)
  | duplicateTransform (uri : String)
  | duplicateDataObject (referenceId : String)
  | multiplicityExceeded (kind : PropertyKind) (multiplicity : Multiplicity)
  | appliesToAllDataObjects (kind : PropertyKind)
  | alreadyAttachedToTarget (kind : PropertyKind)
  | missingTarget (kind : PropertyKind)
  | unresolvedTarget (target : String)
  | notPresent (kind : PropertyKind)
  | emptyCertificateChain
  | incompleteTimeStampData (missing : String)
  | timeStampAlreadyResolved (kind : PropertyKind)
  | misplacedProperty (kind : PropertyKind) (placement : Placement)
  | formRequirement (form : SignatureForm) (missing : PropertyKind)
  | missingProvider (provider : String)
  | digestInputConstructionFailed (cause : String)
  | certificateValidation (cause : String)
  | timeStampTokenGeneration (cause : String)
  | timeStampTokenVerification (cause : String)
  | xmlParse (fault : XmlFault)
  | missingElement (name : String)
  | missingAttribute (name : String)
  | unsupportedAlgorithm (use : String)
  | base64 (reason : String)
  | certificate (reason : String)
  | io (cause : String)
  deriving DecidableEq, Repr

namespace Placement

/-- The name of the place. -/
def name : Placement → String
  | .group g => g.containerName
  | .allDataObjects => "all signed data objects"

end Placement

namespace XmlFault

/-- The fault in words. -/
def message : XmlFault → String
  | .invalidUtf8 => "invalid UTF-8"
  | .malformed reason => reason
  | .duplicateId value => s!"duplicate Id value: {value}"

end XmlFault

namespace Error

/-- The name of the cause. -/
def cause : Error → String
  | .duplicatePropertyKind _ => "DuplicatePropertyKind"
  | .duplicateInstance _ => "DuplicateInstance"
  | .duplicateTransform _ => "DuplicateTransform"
  | .duplicateDataObject _ => "DuplicateDataObject"
  | .multiplicityExceeded _ _ => "MultiplicityExceeded"
  | .appliesToAllDataObjects _ => "AppliesToAllDataObjects"
  | .alreadyAttachedToTarget _ => "AlreadyAttachedToTarget"
  | .missingTarget _ => "MissingTarget"
  | .unresolvedTarget _ => "UnresolvedTarget"
  | .notPresent _ => "NotPresent"
  | .emptyCertificateChain => "EmptyCertificateChain"
  | .incompleteTimeStampData _ => "IncompleteTimeStampData"
  | .timeStampAlreadyResolved _ => "TimeStampAlreadyResolved"
  | .misplacedProperty _ _ => "MisplacedProperty"
  | .formRequirement _ _ => "FormRequirement"
  | .missingProvider _ => "MissingProvider"
  | .digestInputConstructionFailed _ => "DigestInputConstructionFailed"
  | .certificateValidation _ => "CertificateValidation"
  | .timeStampTokenGeneration _ => "TimeStampTokenGeneration"
  | .timeStampTokenVerification _ => "TimeStampTokenVerification"
  | .xmlParse _ => "XmlParse"
  | .missingElement _ => "MissingElement"
  | .missingAttribute _ => "MissingAttribute"
  | .unsupportedAlgorithm _ => "UnsupportedAlgorithm"
  | .base64 _ => "Base64"
  | .certificate _ => "Certificate"
  | .io _ => "Io"

/-- The error in words. -/
def message : Error → String
  | .duplicatePropertyKind kind => s!"a {kind.name} property is already present"
  | .duplicateInstance kind => s!"this {kind.name} property instance was already added"
  | .duplicateTransform uri => s!"transform already present in the chain: {uri}"
  | .duplicateDataObject referenceId =>
      s!"a signed data object with reference Id {referenceId} is already present"
  | .multiplicityExceeded kind multiplicity =>
      s!"target multiplicity {multiplicity.name} of {kind.name} exceeded"
  | .appliesToAllDataObjects kind =>
      s!"{kind.name} applies to all data objects and cannot be attached to one"
  | .alreadyAttachedToTarget kind =>
      s!"{kind.name} property is already attached to this data object"
  | .missingTarget kind => s!"{kind.name} property has no target data object"
  | .unresolvedTarget target =>
      s!"property target does not match any signed reference: {target}"
  | .notPresent kind => s!"{kind.name} property is not present"
  | .emptyCertificateChain => "validation data requires at least one certificate"
  | .incompleteTimeStampData missing =>
      s!"time-stamp verification data is missing its {missing}"
  | .timeStampAlreadyResolved kind => s!"{kind.name} time-stamp was already resolved"
  | .misplacedProperty kind placement =>
      s!"{kind.name} property cannot appear in {placement.name}"
  | .formRequirement form missing =>
      s!"signature form {form.name} requires a {missing.name} property"
  | .missingProvider provider => s!"no {provider} provider configured"
  | .digestInputConstructionFailed cause => s!"cannot build time-stamp digest input: {cause}"
  | .certificateValidation cause => s!"certificate validation failed: {cause}"
  | .timeStampTokenGeneration cause => s!"time-stamp token generation failed: {cause}"
  | .timeStampTokenVerification cause => s!"time-stamp token verification failed: {cause}"
  | .xmlParse fault => s!"XML parsing error: {fault.message}"
  | .missingElement name => s!"missing required element: {name}"
  | .missingAttribute name => s!"missing required attribute: {name}"
  | .unsupportedAlgorithm use => s!"unsupported algorithm: {use}"
  | .base64 reason => s!"base64 decode error: {reason}"
  | .certificate reason => s!"certificate error: {reason}"
  | .io cause => s!"I/O error: {cause}"

/-- Whether the caller caused the error by asking for an illegal structure. -/
def isStructural : Error → Bool
  | .duplicatePropertyKind _ | .duplicateInstance _ | .duplicateTransform _
  | .duplicateDataObject _ | .multiplicityExceeded _ _ | .appliesToAllDataObjects _
  | .alreadyAttachedToTarget _ | .missingTarget _ | .unresolvedTarget _ | .notPresent _
  | .emptyCertificateChain | .incompleteTimeStampData _ | .timeStampAlreadyResolved _
  | .misplacedProperty _ _ | .formRequirement _ _ | .missingProvider _ => true
  | _ => false

/-- Whether the error passes on the failure of an external collaborator. -/
def isExternal : Error → Bool
  | .digestInputConstructionFailed _ | .certificateValidation _
  | .timeStampTokenGeneration _ | .timeStampTokenVerification _ => true
  | _ => false

/-- The words of whoever failed underneath, when the error only passes them on. -/
def source? : Error → Option String
  | .digestInputConstructionFailed cause | .certificateValidation cause
  | .timeStampTokenGeneration cause | .timeStampTokenVerification cause | .io cause => some cause
  | _ => none

/-- No error is structural and external at once. -/
theorem not_isExternal_of_isStructural (e : Error) (h : e.isStructural = true) :
    e.isExternal = false := by
  cases e <;> simp_all [isStructural, isExternal]

end Error

end AdvancedSignature
