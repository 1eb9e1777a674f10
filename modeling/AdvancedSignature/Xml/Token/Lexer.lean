import AdvancedSignature.Xml.Token.Basic

/-!
# Reading tokens

A lexer takes a piece off the front of a text or fails.  `Lexer.content` reads what stands inside
an element, and `Lexer.document` a whole document: its tokens and the entities it declares.  A
document type is read for its entities only; other declarations are passed over.
-/

namespace AdvancedSignature.Xml

/-- A reader of pieces of text. -/
abbrev Lexer (α : Type) := StateT (List Char) Option α

namespace Lexer

/-! ## Small pieces -/

/-- Fails. -/
def fail {α : Type} : Lexer α := fun _ => none

/-- Goes on only under a condition. -/
def require (condition : Bool) : Lexer Unit := if condition then return () else fail

/-- Whether the text goes on with the word. -/
def looksAt (word : String) (cs : List Char) : Bool := word.toList.isPrefixOf cs

/-- Whether the text goes on with the word, which stays. -/
def sees (word : String) : Lexer Bool := fun cs => some (looksAt word cs, cs)

/-- Whether the text is over. -/
def atEnd : Lexer Bool := fun cs => some (cs.isEmpty, cs)

/-- Takes off the word. -/
def expect (word : String) : Lexer Unit := fun cs =>
  if looksAt word cs then some ((), cs.drop word.length) else none

/-- The next character. -/
def next : Lexer Char
  | [] => none
  | c :: rest => some (c, rest)

/-- The characters up to the first that fails the test. -/
def takeWhile (test : Char → Bool) : Lexer (List Char) := fun cs =>
  some (cs.takeWhile test, cs.dropWhile test)

/-- Passes over white space. -/
def spaces : Lexer Unit := fun cs => some ((), cs.dropWhile isSpace)

/-- Passes over white space, which must be there. -/
def someSpaces : Lexer Unit := do
  require (isSpace (← next))
  spaces

/-- Splits the text where the remainder passes the test.  No character before that place, nor the
one there, may be foreign to documents. -/
def splitWhere (stop : List Char → Bool) : List Char → Option (List Char × List Char)
  | [] => some ([], [])
  | c :: rest =>
      if !isDocumentChar c then none
      else if stop (c :: rest) then some ([], c :: rest)
      else (splitWhere stop rest).map fun r => (c :: r.1, r.2)

/-- The characters before the next occurrence of the word, which is taken off too. -/
def upTo (word : String) : Lexer (List Char) := do
  let content ← (splitWhere (looksAt word) : Lexer (List Char))
  expect word
  return content

/-- A quotation mark. -/
def quote : Lexer Char := do
  let c ← next
  require (c == '"' || c == '\'')
  return c

/-- A text between quotation marks, whatever it holds. -/
def quoted : Lexer (List Char) := do
  let q ← quote
  let content ← takeWhile (· != q)
  let _ ← next
  return content

/-! ## Names -/

/-- A name. -/
def name : Lexer String := do
  let cs ← takeWhile isNameChar
  match cs with
  | c :: _ => require (isNameStart c)
  | [] => fail
  return String.ofList cs

/-- Splits a name at its first colon. -/
def splitName (cs : List Char) : List Char × List Char :=
  match cs.dropWhile (· != ':') with
  | _ :: localPart => (cs.takeWhile (· != ':'), localPart)
  | [] => ([], cs)

/-- Whether the text is empty or starts as a name does. -/
def startsName : List Char → Bool
  | c :: _ => isNameStart c
  | [] => true

/-- A name that may have a qualifier. -/
def qualifiedName : Lexer QualifiedName := do
  let cs ← takeWhile isNameChar
  let (qualifier, localPart) := splitName cs
  require (!localPart.isEmpty && !localPart.contains ':')
  require (startsName qualifier && startsName localPart)
  return ⟨String.ofList qualifier, String.ofList localPart⟩

/-! ## Tags -/

/-- An attribute. -/
def writtenAttribute : Lexer WrittenAttribute := do
  let name ← qualifiedName
  spaces
  expect "="
  spaces
  let q ← quote
  let value ← (splitWhere fun cs => cs.head? == some q || cs.head? == some '<')
  require ((← next) == q)
  return ⟨name, value⟩

/-- The attributes and the end of a start tag, at most `fuel` of them. -/
def attributesUpTo : Nat → Lexer (List WrittenAttribute × TagEnd)
  | 0 => fail
  | fuel + 1 => do
      if ← atEnd then return ([], .cutOff)
      let separated := (← get).head?.any isSpace
      spaces
      if ← sees "/" then
        expect "/>"
        return ([], .empty)
      else if ← sees ">" then
        expect ">"
        return ([], .opening)
      else do
        require separated
        let first ← writtenAttribute
        let (others, ending) ← attributesUpTo fuel
        return (first :: others, ending)

/-- A start tag. -/
def startTag : Lexer Token := do
  expect "<"
  let name ← qualifiedName
  let (attributes, ending) ← attributesUpTo ((← get).length + 1)
  return .startTag name attributes ending

/-- An end tag. -/
def endTag : Lexer Token := do
  expect "</"
  let name ← qualifiedName
  spaces
  expect ">"
  return .endTag name

/-! ## Other pieces -/

/-- Whether the word occurs in the text. -/
def occurs (word : String) : List Char → Bool
  | [] => word.isEmpty
  | c :: rest => looksAt word (c :: rest) || occurs word rest

/-- A comment.  Two hyphens only stand at its ends. -/
def comment : Lexer Token := do
  expect "<!--"
  let content ← upTo "-->"
  require (!occurs "--" content && content.getLast? != some '-')
  return .comment content

/-- A processing instruction. -/
def instruction : Lexer Token := do
  require (!(← sees "<?xml "))
  expect "<?"
  let target ← name
  spaces
  let content ← upTo "?>"
  return .instruction target content

/-- Text that is not looked at for markup. -/
def cdata : Lexer Token := do
  expect "<![CDATA["
  return .cdata (← upTo "]]>")

/-- Text up to the next markup. -/
def text : Lexer Token := do
  let written ← (splitWhere fun cs => cs.head? == some '<')
  require (!occurs "]]>" written)
  return .text written

/-- The next token inside an element. -/
def token : Lexer Token := do
  if ← sees "<!--" then comment
  else if ← sees "<![CDATA[" then cdata
  else if ← sees "<!" then fail
  else if ← sees "<?" then instruction
  else if ← sees "</" then endTag
  else if ← sees "<" then startTag
  else text

/-- How many elements are open after the token, when `depth` of them were opened since the reading
began; `none` after an end tag for an element that was open before. -/
def depthAfter (depth : Nat) : Token → Option Nat
  | .startTag _ _ .opening => some (depth + 1)
  | .endTag _ => if depth = 0 then none else some (depth - 1)
  | _ => some depth

/-- The tokens inside an element, at most `fuel` of them. -/
def contentUpTo : Nat → Nat → Lexer (List Token)
  | 0, _ => fail
  | fuel + 1, depth => do
      if ← atEnd then return []
      let first ← token
      match depthAfter depth first with
      | none => return [first]
      | some deeper =>
          let others ← contentUpTo fuel deeper
          return first :: others

/-- The tokens inside an element, up to its end tag or the end of the text. -/
def content : Lexer (List Token) := fun cs => contentUpTo (cs.length + 1) 0 cs

/-! ## Before and after the root element -/

/-- White space, which may be missing only where the declaration ends. -/
def declarationSpaces : Lexer Unit := do
  let cs ← get
  require (cs.head?.all isSpace || looksAt "?>" cs)
  spaces

/-- The declaration of the version of XML, with an encoding and more, none of which matters. -/
def declaration : Lexer Unit := do
  expect "<?xml"
  declarationSpaces
  require (← sees "version")
  let _ ← writtenAttribute
  declarationSpaces
  if ← sees "encoding" then
    let _ ← writtenAttribute
    declarationSpaces
  if ← sees "standalone" then
    let _ ← writtenAttribute
  spaces
  expect "?>"

/-- Comments and processing instructions between white space, at most `fuel` of them. -/
def miscUpTo : Nat → Lexer (List Token)
  | 0 => return []
  | fuel + 1 => do
      spaces
      if ← sees "<!--" then
        let first ← comment
        return first :: (← miscUpTo fuel)
      else if ← sees "<?" then
        let first ← instruction
        return first :: (← miscUpTo fuel)
      else return []

/-- Comments and processing instructions between white space. -/
def misc : Lexer (List Token) := fun cs => miscUpTo (cs.length + 1) cs

/-- An external identifier, if there is one, and whether there is. -/
def externalId : Lexer Bool := do
  if ← sees "SYSTEM" then
    expect "SYSTEM"
    someSpaces
    let _ ← quoted
    return true
  else if ← sees "PUBLIC" then
    expect "PUBLIC"
    someSpaces
    let _ ← quoted
    someSpaces
    let _ ← quoted
    return true
  else return false

/-- The definition of an entity: its replacement text, unless that is somewhere else. -/
def entityDefinition (isGeneral : Bool) : Lexer (Option (List Char)) := do
  if (← sees "\"") || (← sees "'") then return some (← quoted)
  require (← externalId)
  if isGeneral then
    spaces
    if ← sees "NDATA" then
      expect "NDATA"
      someSpaces
      let _ ← name
  return none

/-- The declaration of an entity.  The names of general and parameter entities are not kept
apart. -/
def entityDeclaration : Lexer EntityTable := do
  expect "<!ENTITY"
  someSpaces
  let isParameter ← sees "%"
  if isParameter then
    expect "%"
    someSpaces
  let entity ← name
  someSpaces
  let replacement ← entityDefinition !isParameter
  spaces
  expect ">"
  return replacement.toList.map fun r => (entity, r)

/-- A declaration that is passed over. -/
def otherDeclaration : Lexer Unit := do
  let _ ← takeWhile (· != '>')
  expect ">"

/-- The declarations of a document type, at most `fuel` of them, with the bracket that ends
them. -/
def declarationsUpTo : Nat → Lexer EntityTable
  | 0 => fail
  | fuel + 1 => do
      spaces
      if ← sees "]" then
        expect "]"
        return []
      let first ← do
        if ← sees "<!ENTITY" then entityDeclaration
        else if ← sees "<!--" then
          let _ ← comment
          pure []
        else if ← sees "<?" then
          let _ ← instruction
          pure []
        else if (← sees "<!ELEMENT") || (← sees "<!ATTLIST") || (← sees "<!NOTATION") then
          otherDeclaration
          pure []
        else fail
      return first ++ (← declarationsUpTo fuel)

/-- The document type, if there is one: the entities that it declares. -/
def documentType : Lexer EntityTable := do
  if ← sees "<!DOCTYPE" then
    expect "<!DOCTYPE"
    someSpaces
    let _ ← name
    spaces
    let _ ← externalId
    spaces
    if ← sees "[" then
      expect "["
      let table ← declarationsUpTo ((← get).length + 1)
      spaces
      expect ">"
      return table
    else
      expect ">"
      return []
  else return []

/-- The root element with what stands inside it. -/
def root : Lexer (List Token) := do
  let first ← startTag
  match first with
  | .startTag _ _ .opening => return first :: (← content)
  | _ => return [first]

/-- A document: its entities and its tokens. -/
def document : Lexer (EntityTable × List Token) := do
  if ← sees "\ufeff" then expect "\ufeff"
  if ← sees "<?xml " then declaration
  let beforeType ← misc
  spaces
  let entities ← documentType
  let beforeRoot ← misc
  spaces
  let element ← do if ← sees "<" then root else pure []
  let afterRoot ← misc
  require (← atEnd)
  return (entities, beforeType ++ beforeRoot ++ element ++ afterRoot)

end Lexer

end AdvancedSignature.Xml
