import AdvancedSignature.Proofs.Property.Bag
import AdvancedSignature.Proofs.X509.Reference
import AdvancedSignature.Property.Signature

/-!
# References to a certification path

Validation data are a path and the revocation lists that go with it, and three properties refer to
them: the signing certificate to the whole path, the complete certificate references to what comes
after the leaf, and the complete revocation references to the lists.

* `ValidationData.IsOf`: what validation data are when they are made of a path and lists.
* `ValidationData.IsReferencedBy`: the references to certificates cover the path, each certificate
  once and in the order of the path.
* `ValidationData.references_cover_path`: every path has validation data, and what the references
  to them are.
-/

namespace AdvancedSignature

/-- The distinct elements are those that an instance list takes in. -/
theorem distinct_eq_ofList {α : Type} [DecidableEq α] (xs : List α) :
    distinct xs = (InstanceList.ofList xs).entries := by
  have hfold (l : InstanceList α) :
      xs.foldl (fun seen x => if x ∈ seen then seen else seen ++ [x]) l.entries =
        (xs.foldl (fun l p => (l.pushUnique p).2) l).entries := by
    induction xs generalizing l with
    | nil => rfl
    | cons x rest ih =>
      rw [List.foldl_cons, List.foldl_cons, ← ih, InstanceList.pushUnique_eq]
      split_ifs <;> rfl
  exact hfold {}

variable {path : List Certificate} {lists : List RevocationList} {uri : String}

/-! ## The references of a signing certificate -/

namespace SigningCertificate

theorem ofCertificates_eq_ok_iff (hpath : path ≠ []) {s : SigningCertificate} :
    ofCertificates path uri = .ok s ↔
      List.Forall₂ (fun c r => CertificateReference.ofCertificate c uri = .ok r)
        path s.references := by
  rw [ofCertificates, List.isEmpty_eq_false_iff.2 hpath, if_neg Bool.false_ne_true, bind_eq_ok_iff]
  simp only [← mapM_eq_ok_iff]
  constructor
  · rintro ⟨references, hreferences, h⟩
    obtain rfl := Except.ok.inj h
    exact hreferences
  · exact fun h => ⟨s.references, h, rfl⟩

/-- There are references to a path when all its certificates can be parsed and there is a
digest. -/
theorem exists_ofCertificates_iff (hpath : path ≠ []) :
    (∃ s, ofCertificates path uri = .ok s) ↔
      (∀ c ∈ path, ∃ fields, c.parse = .ok fields) ∧ Digest.isSupported uri = true := by
  have hlist : (∃ s, ofCertificates path uri = .ok s) ↔
      ∃ references, List.Forall₂ (fun c r => CertificateReference.ofCertificate c uri = .ok r)
        path references := by
    simp only [ofCertificates_eq_ok_iff hpath]
    exact ⟨fun ⟨s, h⟩ => ⟨s.references, h⟩, fun ⟨references, h⟩ => ⟨⟨references⟩, h⟩⟩
  have hmade (c : Certificate) := (CertificateReference.isMadeFrom_ofCertificate c uri).exists_iff
  rw [hlist, exists_forall₂_iff]
  simp only [hmade]
  obtain ⟨leaf, hleaf⟩ := List.exists_mem_of_ne_nil path hpath
  exact ⟨fun h => ⟨fun c hc => (h c hc).1, (h leaf hleaf).2⟩, fun h c hc => ⟨h.1 c hc, h.2⟩⟩

end SigningCertificate

namespace ValidationData

variable {data : ValidationData}

/-! ## The data of a path -/

/-- The data have the path, with its leaf in front and its trust anchor at the end, and of the
revocation lists each once, in the order in which they first occur. -/
structure IsOf (data : ValidationData) (path : List Certificate) (lists : List RevocationList) :
    Prop where
  certificates : data.certificates = path
  leaf : path[0]? = some data.leaf
  trustAnchor : path[path.length - 1]? = some data.trustAnchor
  issuers : 1 ≤ path.length ∧ data.issuers = path.drop 1
  revocationLists : (⟨data.revocationLists⟩ : InstanceList RevocationList).Lists lists

theorem ofParts_eq_error_iff {e : Error} :
    ofParts path lists = .error e ↔ path = [] ∧ e = .emptyCertificateChain := by
  unfold ofParts
  split_ifs with h
  · simp [h]
  · simp [not_not.1 h, eq_comm]

theorem exists_ofParts (h : path ≠ []) (lists : List RevocationList) :
    ∃ data, ofParts path lists = .ok data ∧ data.IsOf path lists := by
  refine ⟨⟨path, distinct lists, h⟩, dif_pos h, ?_⟩
  exact
    { certificates := rfl
      leaf := by rw [← List.head?_eq_getElem?, leaf, List.head?_eq_some_head]
      trustAnchor := by rw [← List.getLast?_eq_getElem?, trustAnchor, List.getLast?_eq_some_getLast]
      issuers := ⟨List.length_pos_iff.2 h, List.drop_one.symm⟩
      revocationLists := by
        rw [distinct_eq_ofList]
        exact InstanceList.lists_ofList lists }

/-! ## The references to them -/

/-- The references of a signing certificate cover the path. -/
structure IsReferencedBy (data : ValidationData) (s : SigningCertificate) (uri : String) :
    Prop where
  /-- Each certificate has one reference, in the order of the path. -/
  references : List.Forall₂ (fun c r => CertificateReference.ofCertificate c uri = .ok r)
    data.certificates s.references
  /-- The complete references are those after the reference to the leaf. -/
  complete : ∃ r rest, s.references = r :: rest ∧
    CertificateReference.ofCertificate data.leaf uri = .ok r ∧
    completeCertificateReferences data uri = .ok rest
  /-- The digest of the leaf alone decides what the signing certificate covers. -/
  covers : CoversDigestOf data.leaf.der uri fun der => s.covers ⟨der⟩

theorem isReferencedBy_of_ofCertificates {s : SigningCertificate}
    (h : SigningCertificate.ofCertificates data.certificates uri = .ok s) :
    data.IsReferencedBy s uri := by
  have hall := (SigningCertificate.ofCertificates_eq_ok_iff data.certificates_ne_nil).1 h
  have hsplit := hall
  rw [← data.leaf_cons_issuers, List.forall₂_cons_left_iff] at hsplit
  obtain ⟨r, rest, hr, hrest, hreferences⟩ := hsplit
  refine ⟨hall, ⟨r, rest, hreferences, hr, mapM_eq_ok_iff.2 hrest⟩, ?_⟩
  have hcovers := (CertificateReference.designates_of_ofCertificate hr).covers r.issuerName
    r.serialNumber
  simp only [SigningCertificate.covers, hreferences]
  exact hcovers

/-- The complete revocation references have one for each list, or there are none because of the
first list for which there is none. -/
theorem completeRevocationReferences_cases (data : ValidationData) (uri : String) :
    (∃ references, completeRevocationReferences data uri = .ok references ∧
      List.Forall₂ (fun l r => RevocationListReference.ofRevocationList l uri = .ok r)
        data.revocationLists references) ∨
    ∃ e, completeRevocationReferences data uri = .error e ∧
      FailsFirst (RevocationListReference.ofRevocationList · uri) data.revocationLists e := by
  cases h : completeRevocationReferences data uri with
  | ok references => exact Or.inl ⟨references, rfl, mapM_eq_ok_iff.1 h⟩
  | error e => exact Or.inr ⟨e, rfl, mapM_eq_error_iff.1 h⟩

/-- **References cover a path, each certificate once.**  Only an empty path has no validation data.
There are references to a path exactly if all its certificates can be parsed and the digest is
known; the first of them is that to the leaf, which alone decides what the signing certificate
covers, and the others are the complete references.  Revocation lists are referenced once each,
or not at all. -/
theorem references_cover_path (path : List Certificate) (lists : List RevocationList)
    (uri : String) :
    (∀ e, ofParts path lists = .error e ↔ path = [] ∧ e = .emptyCertificateChain) ∧
      (path ≠ [] → ∃ data, ofParts path lists = .ok data ∧ data.IsOf path lists ∧
        ((∃ s, SigningCertificate.ofCertificates data.certificates uri = .ok s) ↔
          (∀ c ∈ path, ∃ fields, c.parse = .ok fields) ∧ Digest.isSupported uri = true) ∧
        (∀ s, SigningCertificate.ofCertificates data.certificates uri = .ok s →
          data.IsReferencedBy s uri) ∧
        ((∃ references, completeRevocationReferences data uri = .ok references ∧
            List.Forall₂ (fun l r => RevocationListReference.ofRevocationList l uri = .ok r)
              data.revocationLists references) ∨
          ∃ e, completeRevocationReferences data uri = .error e ∧
            FailsFirst (RevocationListReference.ofRevocationList · uri)
              data.revocationLists e)) := by
  refine ⟨fun e => ofParts_eq_error_iff, fun hpath => ?_⟩
  obtain ⟨data, hdata, hof⟩ := exists_ofParts hpath lists
  refine ⟨data, hdata, hof, ?_, fun s => isReferencedBy_of_ofCertificates,
    data.completeRevocationReferences_cases uri⟩
  rw [hof.certificates]
  exact SigningCertificate.exists_ofCertificates_iff hpath

/-- A path of two certificates, with two revocation lists of which one is given twice. -/
theorem references_cover_path_of_plain :
    let path := [X509.plainCertificate [0x01], X509.plainCertificate [0x02]]
    let first := X509.plainRevocationList 1
    let second := X509.plainRevocationList 0
    path ≠ [] ∧ ∃ data, ofParts path [first, second, first] = .ok data ∧
      data.revocationLists = [first, second] ∧
      ∃ s, SigningCertificate.ofCertificates data.certificates Algorithm.sha256 = .ok s ∧
        data.IsReferencedBy s Algorithm.sha256 ∧ s.references.length = 2 := by
  intro path first second
  have hpath : path ≠ [] := List.cons_ne_nil _ _
  have hparse : ∀ c ∈ path, ∃ fields, c.parse = .ok fields := by
    have hfields (n : Bytes) (h : n = [0x01] ∨ n = [0x02]) :
        ((X509.plainCertificate n).parse.map fun f => f.serialNumber) = .ok n := by
      rcases h with rfl | rfl <;> rfl
    intro c hc
    obtain ⟨n, hn, rfl⟩ : ∃ n : Bytes, (n = [0x01] ∨ n = [0x02]) ∧ X509.plainCertificate n = c := by
      simpa [path, eq_comm] using hc
    obtain ⟨fields, hfields, -⟩ := map_eq_ok_iff.1 (hfields n hn)
    exact ⟨fields, hfields⟩
  have hdistinct : distinct [first, second, first] = [first, second] := by decide +kernel
  obtain ⟨-, hdata⟩ := references_cover_path path [first, second, first] Algorithm.sha256
  obtain ⟨data, hdata, hof, hexists, hreferenced, -⟩ := hdata hpath
  obtain ⟨s, hs⟩ := hexists.2 ⟨hparse, by decide +kernel⟩
  refine ⟨hpath, data, hdata, ?_, s, hs, hreferenced s hs, ?_⟩
  · rw [ofParts, dif_pos hpath] at hdata
    rw [← Except.ok.inj hdata, hdistinct]
  · rw [← (hreferenced s hs).references.length_eq, hof.certificates]
    rfl

end ValidationData

end AdvancedSignature
