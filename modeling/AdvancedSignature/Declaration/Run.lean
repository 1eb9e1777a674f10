import AdvancedSignature.Declaration.SignedDataObjects
import AdvancedSignature.Layout.Check

/-!
# Runs of declarations

What an application does before it signs, as a machine.  The state holds the descriptions that
belong to no signature yet, the collections of signed data objects, and the targets of the
properties; an `Action` changes it and has an `Outcome`.  Data objects are numbered in the order in
which they are described, and checking a layout takes numbers too.
-/

namespace AdvancedSignature

/-- The state of the declarations. -/
structure Declarations where
  /-- The next free number of a data object. -/
  nextDataObject : Nat := 1
  table : TargetTable := {}
  /-- The descriptions that have not been added to a collection. -/
  descriptions : List DataObjectDescription := []
  collections : List SignedDataObjects := []

/-- What an application can do. -/
inductive Action where
  /-- Describe a data object under a generated reference identifier. -/
  | describe (uri : String)
  /-- Describe a data object under a chosen reference identifier. -/
  | describeAs (referenceId uri : String)
  | openCollection
  | setType (object : DataObjectId) (referenceType : String)
  | addTransform (object : DataObjectId) (transform : AlgorithmInstance)
  /-- Declare a property on a data object. -/
  | declare (object : DataObjectId) (property : DataObjectProperty)
  /-- Record a target of a property and nothing else. -/
  | attach (property : DataObjectProperty) (object : DataObjectId)
  /-- Add a description to a collection. -/
  | register (object : DataObjectId) (collection : Nat)
  /-- Declare a property on all data objects of a collection. -/
  | declareForAll (collection : Nat) (property : DataObjectProperty)
  | checkLayout (layout : PropertyLayout)

/-- What comes of an action. -/
inductive Outcome where
  | accepted
  | refused (e : Error)
  /-- There is no such data object or collection. -/
  | unknown
  deriving DecidableEq, Repr

namespace Outcome

/-- The outcome of something that may be refused. -/
def ofExcept {α : Type} : Except Error α → Outcome
  | .ok _ => .accepted
  | .error e => .refused e

end Outcome

namespace Declarations

/-! ## Finding and changing -/

/-- The data object, wherever it is. -/
def object? (s : Declarations) (id : DataObjectId) : Option DataObjectDescription :=
  (s.descriptions ++ s.collections.flatMap SignedDataObjects.objects).find? fun d => d.id == id

/-- Puts a description in the place of the one with its identity. -/
def replaceIn (d : DataObjectDescription) (ds : List DataObjectDescription) :
    List DataObjectDescription :=
  ds.map fun other => if other.id = d.id then d else other

/-- Puts a description in the place of the one with its identity, wherever it is. -/
def replace (s : Declarations) (d : DataObjectDescription) : Declarations :=
  { s with
    descriptions := replaceIn d s.descriptions
    collections := s.collections.map fun c => { c with objects := replaceIn d c.objects } }

/-- Whether the number has been given to a data object. -/
def isAllocated (s : Declarations) (id : DataObjectId) : Bool :=
  1 ≤ id.sequence && id.sequence < s.nextDataObject

/-- Adds a description under the next number. -/
def allocate (s : Declarations) (referenceId : DataObjectId → String) (uri : String) :
    Declarations :=
  let id : DataObjectId := ⟨s.nextDataObject⟩
  { s with
    nextDataObject := s.nextDataObject + 1
    descriptions := s.descriptions ++ [{ id, referenceId := referenceId id, uri }] }

/-! ## Actions -/

/-- Declares a property on a data object. -/
def declareOn (s : Declarations) (d : DataObjectDescription) (p : DataObjectProperty) :
    Outcome × Declarations :=
  let (outcome, d, table) := d.declare s.table p
  (.ofExcept outcome, { s.replace d with table })

/-- Adds a description to a collection.  It is lost if the collection refuses it. -/
def registerIn (s : Declarations) (d : DataObjectDescription) (collection : Nat)
    (c : SignedDataObjects) : Outcome × Declarations :=
  let rest := s.descriptions.filter fun other => other.id != d.id
  match c.add d with
  | .ok c =>
      (.accepted, { s with descriptions := rest, collections := s.collections.set collection c })
  | .error e => (.refused e, { s with descriptions := rest })

/-- Carries out an action. -/
def perform (s : Declarations) : Action → Outcome × Declarations
  | .describe uri => (.accepted, s.allocate DataObjectDescription.generatedReferenceId uri)
  | .describeAs referenceId uri => (.accepted, s.allocate (fun _ => referenceId) uri)
  | .openCollection => (.accepted, { s with collections := s.collections ++ [{}] })
  | .setType id referenceType =>
      match s.object? id with
      | none => (.unknown, s)
      | some d => (.accepted, s.replace (d.withType referenceType))
  | .addTransform id transform =>
      match s.object? id with
      | none => (.unknown, s)
      | some d =>
          match d.addTransform transform with
          | .ok d => (.accepted, s.replace d)
          | .error e => (.refused e, s)
  | .declare id p =>
      match s.object? id with
      | none => (.unknown, s)
      | some d => s.declareOn d p
  | .attach p id =>
      if s.isAllocated id then
        match s.table.attach p id with
        | .ok table => (.accepted, { s with table })
        | .error e => (.refused e, s)
      else (.unknown, s)
  | .register id collection =>
      match s.descriptions.find? (fun d => d.id == id), s.collections[collection]? with
      | some d, some c => s.registerIn d collection c
      | _, _ => (.unknown, s)
  | .declareForAll collection p =>
      match s.collections[collection]? with
      | none => (.unknown, s)
      | some c =>
          match c.declareForAll p with
          | .ok c => (.accepted, { s with collections := s.collections.set collection c })
          | .error e => (.refused e, s)
  | .checkLayout layout =>
      (.ofExcept (layout.checkFrom s.nextDataObject),
        { s with nextDataObject := s.nextDataObject + layout.references.length })

/-- The state after a list of actions. -/
def run (s : Declarations) (actions : List Action) : Declarations :=
  actions.foldl (fun s a => (s.perform a).2) s

/-- The outcomes of a list of actions. -/
def outcomes (s : Declarations) : List Action → List Outcome
  | [] => []
  | a :: rest => (s.perform a).1 :: outcomes (s.perform a).2 rest

end Declarations

end AdvancedSignature
