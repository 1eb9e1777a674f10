import AdvancedSignature.Form.Detection

/-!
# Layouts

A layout is what the structure rules need to know of the qualifying properties of one signature:
the identifiers of its references, and for each property its kind, the container in which it was
found and the references that it points at.
-/

namespace AdvancedSignature

/-- A property and where it was found. -/
structure LayoutEntry where
  kind : PropertyKind
  container : PropertyGroup
  /-- The identifiers of the references that the property points at. -/
  targets : List String := []
  deriving DecidableEq, Repr

namespace LayoutEntry

/-- The identifier that a pointer names: the text after a leading `#`, if there is one. -/
def pointee (pointer : String) : String :=
  match pointer.toList with
  | '#' :: rest => String.ofList rest
  | _ => pointer

/-- The entry with one more target, given as a pointer. -/
def withTarget (e : LayoutEntry) (pointer : String) : LayoutEntry :=
  { e with targets := e.targets ++ [pointee pointer] }

/-- Pointing at references one after another is pointing at all of them. -/
theorem foldl_withTarget (e : LayoutEntry) (pointers : List String) :
    pointers.foldl withTarget e = { e with targets := e.targets ++ pointers.map pointee } := by
  induction pointers generalizing e with
  | nil => simp
  | cons pointer rest ih =>
    rw [List.foldl_cons, ih, withTarget]
    simp

end LayoutEntry

/-- The qualifying properties of one signature, in document order. -/
structure PropertyLayout where
  /-- The identifiers of the signed references. -/
  references : List String := []
  entries : List LayoutEntry := []
  deriving DecidableEq, Repr

namespace PropertyLayout

/-- The kinds of the properties. -/
def kinds (l : PropertyLayout) : List PropertyKind := l.entries.map LayoutEntry.kind

/-- The most complete form that the properties satisfy. -/
def form? (l : PropertyLayout) : Option SignatureForm := SignatureForm.detect? l.kinds

end PropertyLayout

end AdvancedSignature
