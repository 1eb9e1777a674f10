import AdvancedSignature.Property.Kind

/-!
# Counts of kinds

How many properties of each kind a container holds.  A kind that does not occur has no entry, and
`increment` and `decrement` undo each other.
-/

namespace AdvancedSignature

/-- How often each kind occurs, in the order in which the kinds came. -/
structure KindCounts where
  entries : List (PropertyKind × Nat) := []
  deriving DecidableEq, Repr

namespace KindCounts

/-- The number recorded for a kind. -/
def lookup (kind : PropertyKind) : List (PropertyKind × Nat) → Nat
  | [] => 0
  | (k, n) :: rest => if k = kind then n else lookup kind rest

/-- One more of the kind. -/
def raise (kind : PropertyKind) : List (PropertyKind × Nat) → List (PropertyKind × Nat)
  | [] => [(kind, 1)]
  | (k, n) :: rest => if k = kind then (k, n + 1) :: rest else (k, n) :: raise kind rest

/-- One less of the kind; its entry goes when none is left. -/
def lower (kind : PropertyKind) : List (PropertyKind × Nat) → List (PropertyKind × Nat)
  | [] => []
  | (k, n) :: rest =>
      if k = kind then (if n ≤ 1 then rest else (k, n - 1) :: rest)
      else (k, n) :: lower kind rest

/-- How often the kind occurs. -/
def count (c : KindCounts) (kind : PropertyKind) : Nat := lookup kind c.entries

/-- Whether there is an entry for the kind. -/
def contains (c : KindCounts) (kind : PropertyKind) : Bool :=
  c.entries.any fun e => e.1 == kind

/-- One more of the kind. -/
def increment (c : KindCounts) (kind : PropertyKind) : KindCounts := ⟨raise kind c.entries⟩

/-- One less of the kind. -/
def decrement (c : KindCounts) (kind : PropertyKind) : KindCounts := ⟨lower kind c.entries⟩

end KindCounts

end AdvancedSignature
