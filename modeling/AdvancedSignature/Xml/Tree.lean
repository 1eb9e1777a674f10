import AdvancedSignature.Xml.Entity
import AdvancedSignature.Xml.Node

/-!
# Trees from tokens

Tokens become a tree one after the other: a start tag opens an element inside the one that was
opened last, an end tag closes that one.  A reference to an entity in text takes in the tokens of
the replacement text, which may open and close elements as well.  Text that meets text joins it.
A replacement text may end in the middle of a start tag; the attributes read by then count for the
next start tag or end with the element around it.
-/

namespace AdvancedSignature.Xml

/-- What qualifiers stand for; the default namespace has no qualifier. -/
abbrev Scope := List (Option String × String)

namespace Scope

/-- The namespace of a qualifier, which is that of its first declaration. -/
def lookup? (scope : Scope) (qualifier : Option String) : Option String :=
  (scope.find? fun d => d.1 == qualifier).map Prod.snd

/-- Whether the qualifier is declared. -/
def declares (scope : Scope) (qualifier : Option String) : Bool :=
  scope.any fun d => d.1 == qualifier

/-- The inner declarations before those of the outer ones that they do not hide. -/
def nest (inner outer : Scope) : Scope :=
  inner ++ outer.filter fun d => !inner.declares d.1

end Scope

/-- The qualifier `xml` always stands for this namespace. -/
def xmlNamespace : String := "http://www.w3.org/XML/1998/namespace"

/-- The namespace of namespace declarations, which nothing may be declared to be. -/
def xmlnsNamespace : String := "http://www.w3.org/2000/xmlns/"

/-- An element that has been opened and not closed. -/
structure OpenElement where
  qualifier : String
  name : ExpandedName
  attributes : List Attribute
  scope : Scope
  /-- The nodes inside it so far, the latest first. -/
  children : List Node := []

/-- A tree in the making. -/
structure Assembly where
  /-- The open elements, the innermost first. -/
  openElements : List OpenElement := []
  /-- The finished nodes outside all elements, the latest first. -/
  outside : List Node := []
  /-- The references so far inside the replacement text of an entity. -/
  references : Nat := 0
  /-- Whether a start tag has been seen in the present text. -/
  tagSeen : Bool := false
  /-- The attributes of the start tag being read, or of one that was cut off. -/
  attributes : List (QualifiedName × String) := []
  /-- The namespaces that it declares. -/
  declared : Scope := []
  /-- Whether a start tag was cut off after the latest text. -/
  interrupted : Bool := false

namespace Assembly

/-! ## Nodes -/

/-- Changes the nodes of the innermost open element, or those outside all elements. -/
def updateNodes (a : Assembly) (f : List Node → List Node) : Assembly :=
  match a.openElements with
  | e :: others => { a with openElements := { e with children := f e.children } :: others }
  | [] => { a with outside := f a.outside }

/-- Adds a node. -/
def addNode (a : Assembly) (n : Node) : Assembly := a.updateNodes (n :: ·)

/-- Adds text to nodes, joining it to the latest one if that is text. -/
def joinText (content : String) : List Node → List Node
  | .text before :: others => .text (before ++ content) :: others
  | nodes => .text content :: nodes

/-- Adds text.  A start tag that was cut off keeps it apart from the text before. -/
def addText (a : Assembly) (content : List Char) : Assembly :=
  let text := String.ofList content
  if a.interrupted then { a with interrupted := false }.addNode (.text text)
  else a.updateNodes (joinText text)

/-! ## Tags -/

/-- Takes in the declaration of a qualifier. -/
def declareQualifier (a : Assembly) (qualifier value : String) : Option Assembly :=
  if value = xmlnsNamespace ∨ (qualifier = "xml" ↔ value ≠ xmlNamespace) ∨
      a.declared.declares (some qualifier) then none
  else if value = xmlNamespace then some a
  else some { a with declared := a.declared ++ [(some qualifier, value)] }

/-- Takes in the declaration of the default namespace. -/
def declareDefault (a : Assembly) (value : String) : Option Assembly :=
  if value = xmlNamespace ∨ value = xmlnsNamespace then none
  else some { a with declared := a.declared ++ [(none, value)] }

/-- Takes in an attribute of a start tag. -/
def addAttribute (table : EntityTable) (room : Nat) (nested : Bool) (a : Assembly)
    (written : WrittenAttribute) : Option Assembly := do
  let (chars, references) ← AttributeValue.ofText table room nested written.value a.references
  let value := String.ofList chars
  let a := { a with references }
  if written.name.qualifier = "xmlns" then a.declareQualifier written.name.localName value
  else if written.name.localName = "xmlns" then a.declareDefault value
  else some { a with attributes := a.attributes ++ [(written.name, value)] }

/-- The namespaces in scope of the tag being read. -/
def scope (a : Assembly) : Scope :=
  a.declared.nest ((a.openElements.head?.map OpenElement.scope).getD [])

/-- The name of an attribute.  Without a qualifier it is in no namespace. -/
def attributeName? (scope : Scope) (name : QualifiedName) : Option ExpandedName :=
  if name.qualifier = "xml" then some ⟨some xmlNamespace, name.localName⟩
  else if name.qualifier = "" then some ⟨none, name.localName⟩
  else (scope.lookup? (some name.qualifier)).map fun uri => ⟨some uri, name.localName⟩

/-- The name of an element.  Without a qualifier it is in the default namespace, if there is
one. -/
def elementName? (scope : Scope) (name : QualifiedName) : Option ExpandedName :=
  if name.qualifier = "" then some ⟨scope.lookup? none, name.localName⟩
  else (scope.lookup? (some name.qualifier)).map fun uri => ⟨some uri, name.localName⟩

/-- The attributes of an element, no two of which have the same name. -/
def attributes? (scope : Scope) (written : List (QualifiedName × String)) :
    Option (List Attribute) :=
  written.foldlM (fun found w => do
    let name ← attributeName? scope w.1
    if found.any fun b => b.name == name then none
    else some (found ++ [⟨name, w.2⟩])) []

/-- The element of the tag being read. -/
def element? (a : Assembly) (name : QualifiedName) : Option OpenElement := do
  let attributes ← attributes? a.scope a.attributes
  let expanded ← elementName? a.scope name
  return { qualifier := name.qualifier, name := expanded, attributes, scope := a.scope }

/-- Takes in a start tag. -/
def startTag (table : EntityTable) (room : Nat) (nested : Bool) (a : Assembly)
    (name : QualifiedName) (attributes : List WrittenAttribute) (ending : TagEnd) :
    Option Assembly := do
  if name.qualifier = "xmlns" then none
  else do
    let a ← attributes.foldlM (addAttribute table room nested) { a with tagSeen := true }
    match ending with
    | .cutOff => return { a with interrupted := true }
    | .empty =>
        let e ← a.element? name
        let a := { a with attributes := [], declared := [] }
        return a.addNode (.element e.name e.attributes [])
    | .opening =>
        let e ← a.element? name
        return { a with
          attributes := [], declared := [], openElements := e :: a.openElements }

/-- Takes in an end tag, which has to name the innermost open element as its start tag did.  A
replacement text does not begin with the end of an element.  The attributes of a start tag that was
cut off need names here as well, and end with the element. -/
def endTag (a : Assembly) (name : QualifiedName) : Option Assembly :=
  if !a.tagSeen then none
  else do
    let _ ← attributes? a.scope a.attributes
    match a.openElements with
    | [] => none
    | e :: others =>
        if name.qualifier = e.qualifier ∧ name.localName = e.name.localName then
          let a := { a with attributes := [], declared := [], openElements := others }
          return a.addNode (.element e.name e.attributes e.children.reverse)
        else none

/-! ## Text -/

/-- Appends a character to text that is kept backwards.  A carriage return, with or without a line
feed after it, becomes a line feed as soon as what follows it is known. -/
def pushText (buffer : List Char) (c : Char) (isLast : Bool) : List Char :=
  match buffer with
  | '\r' :: before =>
      if isLast ∧ c = '\r' then '\n' :: '\n' :: before
      else if c = '\n' then '\n' :: before
      else c :: '\n' :: before
  | _ => if isLast ∧ c = '\r' then '\n' :: buffer else c :: buffer

/-- The characters with their line ends made line feeds, backwards. -/
def normalizeLines (buffer : List Char) : List Char → List Char
  | [] => buffer
  | c :: rest => normalizeLines (pushText buffer c rest.isEmpty) rest

/-- Adds the text that is kept backwards, unless there is none. -/
def flush (a : Assembly) (buffer : List Char) : Assembly :=
  if buffer.isEmpty then a else a.addText buffer.reverse

/-- Takes in the pieces of a text.  `buffer` holds, backwards, the text not added yet, and
`literally` tells that the next character is not to be looked at as a line end, because a
character reference stands before it. -/
def addChunks (table : EntityTable) (expand : List Char → Assembly → Option Assembly)
    (nested : Bool) : List Chunk → List Char → Bool → Assembly → Option Assembly
  | [], buffer, _, a => some (a.flush buffer)
  | .literal c :: rest, buffer, literally, a =>
      addChunks table expand nested rest
        (if literally then c :: buffer else pushText buffer c rest.isEmpty) false a
  | .character c :: rest, buffer, literally, a =>
      if nested then
        addChunks table expand nested rest (pushText buffer c rest.isEmpty) literally a
      else addChunks table expand nested rest (c :: buffer) true a
  | .entity name :: rest, buffer, _, a => do
      let replacement ← table.lookup? name
      let references ← countReference nested a.references
      let a ← expand replacement { a.flush buffer with references }
      addChunks table expand nested rest [] false
        (if nested then a else { a with references := 0 })

/-! ## Tokens -/

/-- Takes in a token.  `expand` takes in a replacement text, `room` is how deep entities may be
nested in attribute values, and `nested` tells whether the token is part of a replacement text. -/
def addToken (table : EntityTable) (expand : List Char → Assembly → Option Assembly)
    (room : Nat) (nested : Bool) (a : Assembly) : Token → Option Assembly
  | .startTag name attributes ending => a.startTag table room nested name attributes ending
  | .endTag name => a.endTag name
  | .text written => do a.addChunks table expand nested (← Chunk.ofText? written) [] false
  | .cdata content => some (a.addText (normalizeLines [] content).reverse)
  | .comment content => some (a.addNode (.comment (String.ofList content)))
  | .instruction target content =>
      some (a.addNode (.instruction target (String.ofList content)))

/-- Takes in a replacement text in which entities may be nested `room - 1` deep. -/
def expand (table : EntityTable) : Nat → List Char → Assembly → Option Assembly
  | 0, _, _ => none
  | room + 1, replacement, a => do
      let (tokens, _) ← Lexer.content replacement
      let b ← tokens.foldlM (addToken table (expand table room) room true)
        { a with tagSeen := false }
      return { b with tagSeen := a.tagSeen }

/-- The tree of tokens, if every element is closed and there is at least one. -/
def nodes? (table : EntityTable) (tokens : List Token) : Option (List Node) := do
  let a ← tokens.foldlM (addToken table (expand table entityDepth) entityDepth false) {}
  if a.openElements.isEmpty ∧ a.outside.any Node.isElement then some a.outside.reverse else none

end Assembly

end AdvancedSignature.Xml
