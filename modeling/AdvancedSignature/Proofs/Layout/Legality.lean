import AdvancedSignature.Proofs.Layout.Replay

/-!
# Legal layouts

The rules of structure, stated for a layout as a whole: where its entries may stand, which kinds
may come twice, and what the entries may point at.  `PropertyLayout.IsLegal` lists them, and the
check accepts exactly the layouts that keep them all.
-/

namespace AdvancedSignature

namespace PropertyLayout

/-- The layout keeps the rules. -/
structure IsLegal (l : PropertyLayout) : Prop where
  /-- Every entry stands in the container of its kind. -/
  inPlace : ∀ e ∈ l.entries, e.container = e.kind.group
  /-- No two entries are of one signature-level kind that is put. -/
  single : l.entries.Pairwise fun f e =>
    e.kind.isSignatureLevel = true → e.kind.insertionPolicy = .put → f.kind ≠ e.kind
  /-- Every data-object entry points at references of the signature. -/
  resolved : ∀ e ∈ l.entries, e.kind.isSignatureLevel = false → ∀ t ∈ e.targets, t ∈ l.references
  /-- No data-object entry points at one reference twice. -/
  distinct : ∀ e ∈ l.entries, e.kind.isSignatureLevel = false → e.targets.Nodup
  /-- Every entry has as many targets as its kind allows. -/
  allowed : ∀ e ∈ l.entries, e.kind.AllowsTargets e.targets.length
  /-- No two formats have a target in common. -/
  formats : l.entries.Pairwise fun f e =>
    f.kind = .dataObjectFormat → e.kind = .dataObjectFormat → f.targets.Disjoint e.targets

/-- A layout is legal when its entries are right each by itself and any two of them together. -/
theorem isLegal_iff {l : PropertyLayout} :
    l.IsLegal ↔
      (∀ e ∈ l.entries, e.IsSound l.references) ∧
        l.entries.Pairwise LayoutEntry.Compatible := by
  constructor
  · intro h
    refine ⟨fun e he => ⟨h.inPlace e he, h.resolved e he, h.distinct e he, h.allowed e he⟩, ?_⟩
    refine (h.single.and h.formats).imp fun ⟨hsingle, hformats⟩ => ⟨hsingle, ?_⟩
    rintro t ⟨⟨hf, htf⟩, ⟨he, hte⟩⟩
    exact hformats hf he htf hte
  · rintro ⟨hsound, hpairwise⟩
    exact
      { inPlace := fun e he => (hsound e he).inPlace
        single := hpairwise.imp fun h => h.single
        resolved := fun e he => (hsound e he).resolved
        distinct := fun e he => (hsound e he).distinct
        allowed := fun e he => (hsound e he).allowed
        formats := hpairwise.imp fun h hf he t htf hte => h.formats t ⟨⟨hf, htf⟩, ⟨he, hte⟩⟩ }

/-- Nothing is wrong with a layout that keeps the rules, and only with such a one. -/
theorem fault?_eq_none_iff_isLegal {l : PropertyLayout} : l.fault? = none ↔ l.IsLegal := by
  rw [fault?_eq_none_iff, isLegal_iff]

theorem isLegal_of_check {l : PropertyLayout} (h : l.check = .ok ()) : l.IsLegal := by
  rw [check, checkFrom_eq, okUnless_eq_ok_iff] at h
  exact fault?_eq_none_iff_isLegal.1 h.1

instance (l : PropertyLayout) : Decidable l.IsLegal :=
  decidable_of_iff (l.fault? = none) fault?_eq_none_iff_isLegal

/-- **The check accepts exactly the legal layouts**, whatever numbers the references get. -/
theorem checkFrom_eq_ok_iff_isLegal (first : Nat) (l : PropertyLayout) :
    l.checkFrom first = .ok () ↔ l.IsLegal := by
  rw [checkFrom_eq, okUnless_eq_ok_iff, fault?_eq_none_iff_isLegal]
  exact and_iff_left rfl

/-- One format cannot present two references, and two formats cannot present one. -/
example :
    IsLegal ⟨["a", "b"], [⟨.dataObjectFormat, .signedDataObject, ["a"]⟩,
      ⟨.dataObjectFormat, .signedDataObject, ["b"]⟩]⟩ ∧
    ¬ IsLegal ⟨["a", "b"], [⟨.dataObjectFormat, .signedDataObject, ["a", "b"]⟩]⟩ ∧
    ¬ IsLegal ⟨["a"], [⟨.dataObjectFormat, .signedDataObject, ["a"]⟩,
      ⟨.dataObjectFormat, .signedDataObject, ["a"]⟩]⟩ := by
  decide

end PropertyLayout

end AdvancedSignature
