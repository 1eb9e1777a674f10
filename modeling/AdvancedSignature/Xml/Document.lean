import AdvancedSignature.Bytes
import AdvancedSignature.Error
import AdvancedSignature.Vocabulary
import AdvancedSignature.Xml.Tree

/-!
# Documents

A document is a text that is well-formed XML with its tree.  `Document.idMap` finds the elements
by their identifiers, and refuses a document in which an identifier could mean two elements.
-/

namespace AdvancedSignature.Xml

/-- A well-formed document. -/
structure Document where
  text : String
  /-- The root element, with comments and instructions around it. -/
  nodes : List Node

/-- An element found by an identifier. -/
structure Identified where
  value : String
  /-- The position of the element among all elements, in document order. -/
  position : Nat
  element : Node

namespace Document

/-- The tree of a text. -/
def nodesOf? (text : String) : Option (List Node) := do
  let ((entities, tokens), _) ← Lexer.document text.toList
  Assembly.nodes? entities tokens

/-- The document with the text. -/
def parse (text : String) : Except Error Document :=
  match nodesOf? text with
  | some nodes => .ok ⟨text, nodes⟩
  | none => .error (.xmlParse (.malformed "not well-formed"))

/-- The document with the text in UTF-8. -/
def ofBytes (bytes : Bytes) : Except Error Document :=
  match Bytes.toString? bytes with
  | some text => parse text
  | none => .error (.xmlParse .invalidUtf8)

/-- The elements in document order. -/
def elements (d : Document) : List Node := Node.elementsOfAll d.nodes

/-- The elements with the name, at any depth and in document order. -/
def elementsNamed (d : Document) (namespaceUri localName : String) : List Node :=
  d.elements.filter (Node.isNamed namespaceUri localName)

/-- The identifiers of an element. -/
def identifiersOf (element : Node) (position : Nat) : List Identified :=
  AttributeName.identifiers.filterMap fun name =>
    (element.attribute? name).map fun value => ⟨value, position, element⟩

/-- The identifiers of the document in document order. -/
def identifiers (d : Document) : List Identified :=
  d.elements.zipIdx.flatMap fun e => identifiersOf e.1 e.2

/-- Takes an identifier into a map, unless there is one with the value. -/
def insertIdentifier (map : List Identified) (i : Identified) : Except Error (List Identified) :=
  if map.any fun other => other.value == i.value then
    .error (.xmlParse (.duplicateId i.value))
  else .ok (map ++ [i])

/-- The elements of the document by their identifiers. -/
def idMap (d : Document) : Except Error (List Identified) :=
  d.identifiers.foldlM insertIdentifier []

end Document

end AdvancedSignature.Xml
