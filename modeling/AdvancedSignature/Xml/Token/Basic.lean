import AdvancedSignature.Xml.Character

/-!
# Tokens

The pieces of markup and text of which a document consists.  Attribute values and text stand as
they are written: what references in them mean depends on the entities of the document.
-/

namespace AdvancedSignature.Xml

/-- A name as it is written, with the qualifier before its colon, empty when there is none. -/
structure QualifiedName where
  qualifier : String
  localName : String
  deriving DecidableEq, Repr

/-- An attribute as it is written. -/
structure WrittenAttribute where
  name : QualifiedName
  value : List Char
  deriving DecidableEq, Repr

/-- How a start tag ends. -/
inductive TagEnd where
  /-- Content follows. -/
  | opening
  /-- The element is empty. -/
  | empty
  /-- The text is over before the tag is. -/
  | cutOff
  deriving DecidableEq, Repr

/-- A piece of a document. -/
inductive Token where
  | startTag (name : QualifiedName) (attributes : List WrittenAttribute) (ending : TagEnd)
  | endTag (name : QualifiedName)
  | text (written : List Char)
  | cdata (content : List Char)
  | comment (content : List Char)
  | instruction (target : String) (content : List Char)
  deriving DecidableEq, Repr

/-- The general entities that a document declares, with their replacement texts. -/
abbrev EntityTable := List (String × List Char)

namespace EntityTable

/-- The replacement text of an entity, which is that of its first declaration. -/
def lookup? (table : EntityTable) (name : String) : Option (List Char) :=
  (table.find? fun e => e.1 == name).map Prod.snd

end EntityTable

end AdvancedSignature.Xml
