import AdvancedSignature.Error
import AdvancedSignature.Property.KindCounts

/-!
# Containers of properties

Two containers that keep properties in the order in which they came.  Equality of the values is
identity of the properties: a property that can be held several times over with the same content
carries an `InstanceId`.

* `Bag` applies the insertion discipline of the kinds: `put` for the only property of its kind,
  `add` for one beside others, `remove` for taking exactly one property out again.  It counts the
  kinds it holds, so that asking for a kind does not walk the entries.
* `InstanceList` only keeps its properties distinct.
-/

namespace AdvancedSignature

/-- A value that has a property kind. -/
class HasKind (α : Type) where
  kind : α → PropertyKind

instance : HasKind PropertyKind := ⟨id⟩

/-- Properties in insertion order, with the number of those of each kind. -/
structure Bag (α : Type) where
  entries : List α := []
  counts : KindCounts := {}
  deriving DecidableEq

namespace Bag

variable {α : Type} [HasKind α] [DecidableEq α]

/-- Whether the bag holds the property. -/
def contains (b : Bag α) (p : α) : Bool := b.entries.contains p

/-- Whether the bag holds a property of the kind. -/
def containsKind (b : Bag α) (kind : PropertyKind) : Bool := b.counts.contains kind

/-- How many properties of the kind the bag holds. -/
def countOf (b : Bag α) (kind : PropertyKind) : Nat := b.counts.count kind

/-- The properties of the kind. -/
def ofKind (b : Bag α) (kind : PropertyKind) : List α :=
  b.entries.filter fun p => HasKind.kind p == kind

/-- The bag with the property at the end. -/
def append (b : Bag α) (p : α) : Bag α :=
  ⟨b.entries ++ [p], b.counts.increment (HasKind.kind p)⟩

/-- Takes in a property as the only one of its kind. -/
def put (b : Bag α) (p : α) : Except Error (Bag α) :=
  if b.containsKind (HasKind.kind p) then .error (.duplicatePropertyKind (HasKind.kind p))
  else .ok (b.append p)

/-- Takes in a property beside others of its kind. -/
def add (b : Bag α) (p : α) : Except Error (Bag α) :=
  if b.contains p then .error (.duplicateInstance (HasKind.kind p)) else .ok (b.append p)

/-- Takes in a property as its kind demands. -/
def putOrAdd (b : Bag α) (p : α) : Except Error (Bag α) :=
  match (HasKind.kind p).insertionPolicy with
  | .put => b.put p
  | .add => b.add p

/-- Takes out exactly this property. -/
def remove (b : Bag α) (p : α) : Except Error (Bag α) :=
  if b.contains p then
    .ok ⟨b.entries.erase p, b.counts.decrement (HasKind.kind p)⟩
  else .error (.notPresent (HasKind.kind p))

end Bag

/-- Distinct properties in the order in which they came; kinds may repeat freely. -/
structure InstanceList (α : Type) where
  entries : List α := []
  deriving DecidableEq

namespace InstanceList

variable {α : Type} [HasKind α] [DecidableEq α]

/-- Whether the list holds the property. -/
def contains (l : InstanceList α) (p : α) : Bool := l.entries.contains p

/-- Whether the list holds a property of the kind. -/
def containsKind (l : InstanceList α) (kind : PropertyKind) : Bool :=
  l.entries.any fun p => HasKind.kind p == kind

/-- The properties of the kind. -/
def ofKind (l : InstanceList α) (kind : PropertyKind) : List α :=
  l.entries.filter fun p => HasKind.kind p == kind

/-- Appends a property that is not listed yet. -/
def push (l : InstanceList α) (p : α) : Except Error (InstanceList α) :=
  if l.contains p then .error (.duplicateInstance (HasKind.kind p))
  else .ok ⟨l.entries ++ [p]⟩

/-- Appends a property unless it is listed already, and says whether it was appended. -/
def pushUnique (l : InstanceList α) (p : α) : Bool × InstanceList α :=
  if l.contains p then (false, l) else (true, ⟨l.entries ++ [p]⟩)

/-- The distinct properties among those given, at their first occurrences. -/
def ofList (ps : List α) : InstanceList α := ps.foldl (fun l p => (l.pushUnique p).2) {}

end InstanceList

end AdvancedSignature
