/-!
# Nodes

The tree of a document.  Names are expanded: a local name with the namespace that the qualifier
stood for.  An absent namespace and one that is the empty text are kept apart on attributes, and
count as the same on elements.
-/

namespace AdvancedSignature.Xml

/-- A local name in a namespace. -/
structure ExpandedName where
  namespaceUri : Option String
  localName : String
  deriving DecidableEq, Repr

/-- An attribute of an element. -/
structure Attribute where
  name : ExpandedName
  value : String
  deriving DecidableEq, Repr

/-- A node of a document. -/
inductive Node where
  | element (name : ExpandedName) (attributes : List Attribute) (children : List Node)
  | text (content : String)
  | comment (content : String)
  | instruction (target : String) (content : String)
  deriving Repr

namespace Node

/-- Whether the node is an element. -/
def isElement : Node → Bool
  | element .. => true
  | _ => false

/-- The nodes inside the node. -/
def children : Node → List Node
  | element _ _ children => children
  | _ => []

/-- The local name of an element. -/
def localName : Node → String
  | element name _ _ => name.localName
  | _ => ""

/-- The namespace of an element. -/
def namespaceUri : Node → String
  | element name _ _ => name.namespaceUri.getD ""
  | _ => ""

/-- The value of the attribute with the name in no namespace. -/
def attribute? : Node → String → Option String
  | element _ attributes _, name =>
      (attributes.find? fun a => a.name == ⟨none, name⟩).map Attribute.value
  | _, _ => none

/-- The text of an element: its first child, if that is text. -/
def text? : Node → Option String
  | element _ _ (text content :: _) => some content
  | _ => none

/-- Whether the node is the element with this name. -/
def isNamed (namespaceUri localName : String) (n : Node) : Bool :=
  n.isElement && n.localName == localName && n.namespaceUri == namespaceUri

/-- The first child element with the name. -/
def child? (n : Node) (namespaceUri localName : String) : Option Node :=
  n.children.find? (isNamed namespaceUri localName)

/-- The child elements with the name. -/
def childrenNamed (n : Node) (namespaceUri localName : String) : List Node :=
  n.children.filter (isNamed namespaceUri localName)

mutual

/-- The elements of the tree under the node, in document order and with the node itself. -/
def elements : Node → List Node
  | element name attributes children =>
      element name attributes children :: elementsOfAll children
  | _ => []

/-- The elements of the trees under the nodes, in document order. -/
def elementsOfAll : List Node → List Node
  | [] => []
  | n :: rest => elements n ++ elementsOfAll rest

end

end Node

end AdvancedSignature.Xml
