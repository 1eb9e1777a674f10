/-!
# Algorithms

An algorithm is named by a URI and may carry serialized parameter nodes.  The URIs are handed to
the XML engine as they are; this library only compares them.
-/

namespace AdvancedSignature

/-- An algorithm: its URI and its parameter nodes in document order. -/
structure Algorithm where
  uri : String
  params : List String := []
  deriving DecidableEq, Repr, Inhabited

namespace Algorithm

/-! ## Canonicalization -/

/-- Canonical XML 1.0. -/
def c14n : String := "http://www.w3.org/TR/2001/REC-xml-c14n-20010315"

/-- Canonical XML 1.0 that keeps comments. -/
def c14nWithComments : String := "http://www.w3.org/TR/2001/REC-xml-c14n-20010315#WithComments"

/-- Canonical XML 1.1. -/
def c14n11 : String := "http://www.w3.org/2006/12/xml-c14n11"

/-- Canonical XML 1.1 that keeps comments. -/
def c14n11WithComments : String := "http://www.w3.org/2006/12/xml-c14n11#WithComments"

/-- Exclusive canonical XML. -/
def exclusiveC14n : String := "http://www.w3.org/2001/10/xml-exc-c14n#"

/-- Exclusive canonical XML that keeps comments. -/
def exclusiveC14nWithComments : String := "http://www.w3.org/2001/10/xml-exc-c14n#WithComments"

/-- The canonicalization algorithms a profile accepts. -/
def canonicalizations : List String :=
  [c14n, c14nWithComments, c14n11, c14n11WithComments, exclusiveC14n, exclusiveC14nWithComments]

/-- Whether the URI names a canonicalization. -/
def isCanonicalization (uri : String) : Bool := canonicalizations.contains uri

/-! ## Digests -/

/-- SHA-1. -/
def sha1 : String := "http://www.w3.org/2000/09/xmldsig#sha1"

/-- SHA-224. -/
def sha224 : String := "http://www.w3.org/2001/04/xmldsig-more#sha224"

/-- SHA-256. -/
def sha256 : String := "http://www.w3.org/2001/04/xmlenc#sha256"

/-- SHA-384. -/
def sha384 : String := "http://www.w3.org/2001/04/xmldsig-more#sha384"

/-- SHA-512. -/
def sha512 : String := "http://www.w3.org/2001/04/xmlenc#sha512"

/-- SHA3-256. -/
def sha3x256 : String := "http://www.w3.org/2007/05/xmldsig-more#sha3-256"

/-- SHA3-384. -/
def sha3x384 : String := "http://www.w3.org/2007/05/xmldsig-more#sha3-384"

/-- SHA3-512. -/
def sha3x512 : String := "http://www.w3.org/2007/05/xmldsig-more#sha3-512"

/-- The digest algorithms that can be computed. -/
def digests : List String :=
  [sha1, sha224, sha256, sha384, sha512, sha3x256, sha3x384, sha3x512]

/-! ## Signatures and transforms -/

/-- RSA with SHA-256. -/
def rsaSha256 : String := "http://www.w3.org/2001/04/xmldsig-more#rsa-sha256"

/-- ECDSA with SHA-256. -/
def ecdsaSha256 : String := "http://www.w3.org/2001/04/xmldsig-more#ecdsa-sha256"

/-- DSA with SHA-256. -/
def dsaSha256 : String := "http://www.w3.org/2009/xmldsig11#dsa-sha256"

/-- The signature algorithms with SHA-256, one for each key type. -/
def signatures : List String := [rsaSha256, ecdsaSha256, dsaSha256]

/-- The transform that takes the signature out of the document it signs. -/
def envelopedSignature : String := "http://www.w3.org/2000/09/xmldsig#enveloped-signature"

end Algorithm

end AdvancedSignature
