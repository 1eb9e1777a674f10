import AdvancedSignature.Layout.Basic
import AdvancedSignature.Property.Bag
import AdvancedSignature.Property.TargetSet

/-!
# The structure check

`PropertyLayout.check` replays a layout through the containers and target sets that are used when
a signature is produced, entry after entry, so that a signature from elsewhere is held to the
rules that a produced one obeys.  The first violation in document order is the answer.

Data objects are known by identities; which ones the references get does not matter, so the
replay takes them as an argument (`PropertyLayout.checkUnder`).
-/

namespace AdvancedSignature

/-- A property of a layout, told apart by its position. -/
structure FoundProperty where
  position : Nat
  kind : PropertyKind
  deriving DecidableEq, Repr

instance : HasKind FoundProperty := ⟨FoundProperty.kind⟩

/-- The data object that a reference stands for, if it is one of the signature. -/
abbrev ReferenceNumbering := String → Option DataObjectId

namespace ReferenceNumbering

/-- References with their data objects; of two references with one identifier the later counts. -/
def ofList : List (String × DataObjectId) → ReferenceNumbering
  | [] => fun _ => none
  | (r, id) :: rest => fun reference =>
      match ofList rest reference with
      | some found => some found
      | none => if r = reference then some id else none

/-- The data objects that the references get when `first` is the next free number. -/
def allocate (references : List String) (first : Nat) : ReferenceNumbering :=
  ofList (references.zipIdx first |>.map fun r => (r.1, ⟨r.2⟩))

end ReferenceNumbering

/-- The containers in the middle of a replay. -/
structure Replay where
  signedSignature : Bag FoundProperty := {}
  unsignedSignature : Bag FoundProperty := {}
  /-- The properties of each data object. -/
  ofObject : DataObjectId → Bag FoundProperty := fun _ => {}

namespace Replay

/-- Gives a data object another bag. -/
def setObject (r : Replay) (id : DataObjectId) (bag : Bag FoundProperty) : Replay :=
  { r with ofObject := fun other => if other = id then bag else r.ofObject other }

/-- Points a property at one more reference. -/
def pointAt (numbering : ReferenceNumbering) (found : FoundProperty)
    (state : TargetSet × Replay) (reference : String) : Except Error (TargetSet × Replay) := do
  match numbering reference with
  | none => .error (.unresolvedTarget s!"{found.kind.name} -> #{reference}")
  | some id =>
      let targets ← state.1.attach id
      let bag ← (state.2.ofObject id).putOrAdd found
      return (targets, state.2.setObject id bag)

/-- Replays a data-object property.  How many targets a catch-all property may have is not
written in the document, so only the targets themselves are looked at. -/
def dataObjectEntry (numbering : ReferenceNumbering) (r : Replay) (e : LayoutEntry)
    (position : Nat) : Except Error Replay := do
  let start : TargetSet := ⟨e.kind, e.kind.multiplicity, []⟩
  let (_, next) ← e.targets.foldlM (pointAt numbering ⟨position, e.kind⟩) (start, r)
  if e.targets.isEmpty ∧ e.kind.multiplicity ≠ .all ∧ ¬ e.kind.isOther then
    .error (.missingTarget e.kind)
  else .ok next

/-- Replays a property. -/
def entry (numbering : ReferenceNumbering) (r : Replay) (e : LayoutEntry × Nat) :
    Except Error Replay := do
  if e.1.kind.group ≠ e.1.container then
    .error (.misplacedProperty e.1.kind (.group e.1.container))
  else
    match e.1.container with
    | .signedSignature =>
        let bag ← r.signedSignature.putOrAdd ⟨e.2, e.1.kind⟩
        return { r with signedSignature := bag }
    | .unsignedSignature =>
        let bag ← r.unsignedSignature.putOrAdd ⟨e.2, e.1.kind⟩
        return { r with unsignedSignature := bag }
    | .signedDataObject | .unsignedDataObject => dataObjectEntry numbering r e.1 e.2

end Replay

namespace PropertyLayout

/-- Checks the layout when its references stand for these data objects. -/
def checkUnder (numbering : ReferenceNumbering) (l : PropertyLayout) : Except Error Unit :=
  (l.entries.zipIdx.foldlM (Replay.entry numbering) {}).map fun _ => ()

/-- Checks the layout when `first` is the next free number of a data object. -/
def checkFrom (first : Nat) (l : PropertyLayout) : Except Error Unit :=
  l.checkUnder (ReferenceNumbering.allocate l.references first)

/-- Checks the layout, failing on the first violation in document order. -/
def check (l : PropertyLayout) : Except Error Unit := l.checkFrom 1

end PropertyLayout

end AdvancedSignature
