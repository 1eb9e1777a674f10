import AdvancedSignature.Xml.Reference

/-!
# Entities in attribute values

The value of an attribute is its written text with references replaced and each tab and line end
made a space.  Entities may name further entities, ten levels deep, and below the first level no
more than 255 times, which keeps a short document from standing for an endless one.
-/

namespace AdvancedSignature.Xml

/-- How deep entities may be nested. -/
def entityDepth : Nat := 10

/-- How many references there may be inside the replacement text of one entity, at any depth. -/
def nestedReferenceLimit : Nat := 255

/-- The number of nested references after one more of them. -/
def countReference (nested : Bool) (references : Nat) : Option Nat :=
  if nested then
    if references < nestedReferenceLimit then some (references + 1) else none
  else some references

namespace AttributeValue

/-- The character that stands for one of the written text. -/
def normalize (c : Char) : Char := if c == '\t' || c == '\n' || c == '\r' then ' ' else c

/-- Whether a line feed is written next. -/
def lineFeedNext : List Chunk → Bool
  | .literal c :: _ => c == '\n'
  | _ => false

/-- The value of the pieces of a text, with the number of nested references.  `expand` gives the
value of a replacement text, and `nested` tells whether the pieces are part of one.  A reference
to a character is taken literally unless it is part of a replacement text. -/
def ofChunks (table : EntityTable) (expand : List Char → Nat → Option (List Char × Nat))
    (nested : Bool) : List Chunk → Nat → Option (List Char × Nat)
  | [], references => some ([], references)
  | .literal c :: rest, references => do
      let (value, references) ← ofChunks table expand nested rest references
      if c = '\r' ∧ lineFeedNext rest then return (value, references)
      else return (normalize c :: value, references)
  | .character c :: rest, references => do
      if nested ∧ c = '<' then none
      else do
        let (value, references) ← ofChunks table expand nested rest references
        return ((if nested then normalize c else c) :: value, references)
  | .entity name :: rest, references => do
      let replacement ← table.lookup? name
      let references ← countReference nested references
      let (inner, references) ← expand replacement references
      let (value, references) ←
        ofChunks table expand nested rest (if nested then references else 0)
      return (inner ++ value, references)

/-- The value of a written text in which entities may be nested `room` deep. -/
def ofText (table : EntityTable) : Nat → Bool → List Char → Nat → Option (List Char × Nat)
  | 0, nested, text, references => do
      ofChunks table (fun _ _ => none) nested (← Chunk.ofText? text) references
  | room + 1, nested, text, references => do
      ofChunks table (ofText table room true) nested (← Chunk.ofText? text) references

end AttributeValue

end AdvancedSignature.Xml
