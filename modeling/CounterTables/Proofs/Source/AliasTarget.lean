import Mathlib
import CounterTables.Document.Loaded
import CounterTables.Proofs.Text.Trimming

/-!
# Where an alias leads

Two readings find a product in a name. The catalog takes what stands before the
first point of a document's name, as it is; an alias takes what stands before
the first point of its text, with blanks around the text and around the result
left out. An alias that holds the name of a document of the catalog must lead to
that document's product, or it leads nowhere.

The two agree if the product has no blank at its ends. The name of the document
may have some: at its end, behind a point, where neither reading looks. Without
a point, the name is the product.

## Main results

* `aliasTarget_idempotent` — the target of an alias is its own target.
* `aliasTarget_surrounded` — a document's name, with blanks around, leads to its
  product.
* `matchesName_product` — an entry that goes by the name of a document also goes
  by the name of its product.
* `alias_resolves` — an alias of a document leads to its entry in the catalog.
-/

namespace CounterTables

open CounterTables.Text (IsTrimmed isBlank isTrimmed_trim trim dropWhile_of_starts
  mem_of_mem_trim trimEnd_append_cons trim_surrounded trim_eq_self_iff)

/-! ## What comes before a point -/

theorem beforePoint_of_not_mem {cs : List Char} (h : '.' ∉ cs) :
    beforePoint cs = cs := by
  rw [beforePoint, List.takeWhile_eq_self_iff]
  intro c hc
  rw [bne_iff_ne]
  rintro rfl
  exact h hc

theorem beforePoint_append_point {cs : List Char} (h : '.' ∉ cs) (rest : List Char) :
    beforePoint (cs ++ '.' :: rest) = cs := by
  have hcs : cs.takeWhile (· != '.') = cs := beforePoint_of_not_mem h
  rw [beforePoint, List.takeWhile_append, hcs, if_pos rfl]
  simp

theorem not_mem_beforePoint (cs : List Char) : '.' ∉ beforePoint cs := fun h => by
  simpa using List.mem_takeWhile_imp h

theorem productName_idempotent (document : String) :
    productName (productName document) = productName document := by
  rw [productName, productName, String.toList_ofList,
    beforePoint_of_not_mem (not_mem_beforePoint document.toList)]

/-! ## Targets -/

/-- A trimmed name without a point leads to itself. -/
theorem aliasTarget_of_isTrimmed {name : List Char} (htrimmed : IsTrimmed name)
    (hpoint : '.' ∉ name) : aliasTarget (String.ofList name) = String.ofList name := by
  rw [aliasTarget, String.toList_ofList, htrimmed.trim_eq,
    beforePoint_of_not_mem hpoint, htrimmed.trim_eq]

theorem aliasTarget_idempotent (text : String) :
    aliasTarget (aliasTarget text) = aliasTarget text := by
  refine aliasTarget_of_isTrimmed (isTrimmed_trim _) fun hpoint => ?_
  exact not_mem_beforePoint _ (mem_of_mem_trim hpoint)

/-- Trimming does not reach a trimmed name that ends at a point. -/
theorem beforePoint_trim {cs : List Char} (h : IsTrimmed (beforePoint cs)) :
    beforePoint (trim cs) = beforePoint cs := by
  by_cases hpoint : '.' ∈ cs
  · obtain ⟨name, rest, rfl, hname⟩ := List.eq_append_cons_of_mem hpoint
    rw [beforePoint_append_point hname] at h ⊢
    have hstarts : ∀ c ∈ (name ++ '.' :: rest).head?, isBlank c = false := by
      cases name with
      | nil => simp [isBlank]
      | cons c name => exact h.starts
    rw [trim, dropWhile_of_starts hstarts, trimEnd_append_cons (by decide),
      beforePoint_append_point hname]
  · rw [beforePoint_of_not_mem hpoint] at h
    rw [h.trim_eq]

/-- The name of a document leads to its product, whatever blanks are around
it. -/
theorem aliasTarget_surrounded {front back document : String}
    (hfront : ∀ c ∈ front.toList, isBlank c = true)
    (hback : ∀ c ∈ back.toList, isBlank c = true)
    (htrimmed : IsTrimmed (productName document).toList) :
    aliasTarget (front ++ document ++ back) = productName document := by
  rw [productName, String.toList_ofList] at htrimmed
  rw [aliasTarget, String.toList_append, String.toList_append,
    trim_surrounded hfront hback, beforePoint_trim htrimmed, htrimmed.trim_eq,
    productName]

/-! ## Entries of the catalog -/

namespace Catalog

variable {catalog : Catalog} {entry : Entry} {name : String}

/-- The product of an entry is that of its document. -/
theorem product_of_mem (h : entry ∈ catalog.entries) :
    entry.product = productName entry.document := by
  obtain ⟨family, -, hmem⟩ := List.mem_flatMap.1 h
  obtain ⟨document, -, rfl⟩ := List.mem_map.1 hmem
  rfl

/-- An entry that goes by the name of a document goes by that of its product. -/
theorem matchesName_product (h : entry ∈ catalog.entries) {document : String}
    (hmatch : matchesName document entry = true) :
    matchesName (productName document) entry = true := by
  simp only [matchesName, Bool.or_eq_true, beq_iff_eq] at hmatch ⊢
  have hproduct := product_of_mem h
  rcases hmatch with rfl | rfl
  · rw [hproduct, productName_idempotent]
    exact .inl rfl
  · exact .inl hproduct

/-- What a name selects, if an entry goes by it. -/
theorem select_of_mem (h : entry ∈ catalog.entries)
    (hname : matchesName name entry = true) :
    catalog.select (some name) = some (catalog.entries.filter (matchesName name)) ∧
      entry ∈ catalog.entries.filter (matchesName name) := by
  have hmem : entry ∈ catalog.entries.filter (matchesName name) :=
    List.mem_filter.2 ⟨h, hname⟩
  refine ⟨?_, hmem⟩
  rw [select]
  split
  case h_1 hnone => exact absurd (hnone ▸ hmem) List.not_mem_nil
  case h_2 => rfl

/-- What the name of a document selects is among what its product selects, in
the same order. -/
theorem filter_matchesName_sublist (catalog : Catalog) (document : String) :
    (catalog.entries.filter (matchesName document)).Sublist
      (catalog.entries.filter (matchesName (productName document))) := by
  have hboth : catalog.entries.filter (matchesName document) =
      (catalog.entries.filter (matchesName (productName document))).filter
        (matchesName document) := by
    rw [List.filter_filter]
    refine List.filter_congr fun entry hentry => ?_
    rw [Bool.eq_iff_iff, Bool.and_eq_true]
    exact ⟨fun hmatch => ⟨hmatch, matchesName_product hentry hmatch⟩, And.left⟩
  rw [hboth]
  exact List.filter_sublist

end Catalog

/-! ## Aliases -/

theorem Document.parse_encode (location content : String) :
    Document.parse location (Text.Utf8.encode content) = .ok (.ofText content) := by
  rw [Document.parse, Text.Utf8.decode?_encode]

theorem Document.ofText_of_not_object {content : String}
    (h : ∀ fields, Json.read content ≠ some (.object fields)) :
    Document.ofText content = .alias (aliasTarget content) := by
  rw [Document.ofText]
  split
  case h_1 fields hread => exact absurd hread (h fields)
  case h_2 => rfl

/-- An alias that holds the name of a document of the catalog leads to the
product of that document, and from there no further. The catalog has that
product, with the document among its entries; under the document's own name it
has a part of them. -/
theorem alias_resolves (catalog : Catalog) (entry : Entry)
    (hentry : entry ∈ catalog.entries) (htrimmed : IsTrimmed entry.product.toList)
    (location front back : String) (hfront : ∀ c ∈ front.toList, isBlank c = true)
    (hback : ∀ c ∈ back.toList, isBlank c = true)
    (hcontent : ∀ fields,
      Json.read (front ++ entry.document ++ back) ≠ some (.object fields)) :
    Document.parse location (Text.Utf8.encode (front ++ entry.document ++ back)) =
        .ok (.alias entry.product) ∧
      aliasTarget entry.product = entry.product ∧
      ∃ selected named, catalog.select (some entry.product) = some selected ∧
        entry ∈ selected ∧
        catalog.select (some entry.document) = some named ∧ entry ∈ named ∧
        named.Sublist selected := by
  have hproduct := Catalog.product_of_mem hentry
  have htarget : aliasTarget (front ++ entry.document ++ back) = entry.product := by
    rw [hproduct] at htrimmed ⊢
    exact aliasTarget_surrounded hfront hback htrimmed
  have hproductName : Catalog.matchesName entry.product entry = true := by
    simp [Catalog.matchesName]
  have hdocumentName : Catalog.matchesName entry.document entry = true := by
    simp [Catalog.matchesName]
  obtain ⟨hselected, hmem⟩ := Catalog.select_of_mem hentry hproductName
  obtain ⟨hnamed, hmem'⟩ := Catalog.select_of_mem hentry hdocumentName
  refine ⟨?_, ?_, _, _, hselected, hmem, hnamed, hmem', ?_⟩
  · rw [Document.parse_encode, Document.ofText_of_not_object hcontent, htarget]
  · rw [← htarget, aliasTarget_idempotent]
  · rw [hproduct]
    exact catalog.filter_matchesName_sublist entry.document

/-- Two documents of one product, in different families: the name of one has two
points and a blank at its end, that of the other is the product itself. -/
def sharedCatalog : Catalog where
  families := [⟨"neo", ["n2 x.r0.json ", ".json"]⟩, ⟨"old", ["n2 x"]⟩]

def sharedEntry : Entry := ⟨"neo", "n2 x.r0.json ", "n2 x"⟩

/-- The longer name, with an em space and a line feed before it and a tab and a
no-break space behind, leads to the product that both documents have. -/
theorem alias_resolves_in_sharedCatalog :
    Document.parse "n2.json"
        (Text.Utf8.encode ("\u2003\n" ++ "n2 x.r0.json " ++ "\t\u00a0")) =
        .ok (.alias "n2 x") ∧
      aliasTarget "n2 x" = "n2 x" ∧
      ∃ selected named, sharedCatalog.select (some "n2 x") = some selected ∧
        sharedEntry ∈ selected ∧
        sharedCatalog.select (some "n2 x.r0.json ") = some named ∧ sharedEntry ∈ named ∧
        named.Sublist selected := by
  have hread : Json.read ("\u2003\n" ++ "n2 x.r0.json " ++ "\t\u00a0") = none := by cbv
  refine alias_resolves sharedCatalog sharedEntry (by decide)
    (trim_eq_self_iff.1 (by decide)) "n2.json" "\u2003\n" "\t\u00a0"
    (List.all_eq_true.1 rfl) (List.all_eq_true.1 rfl) ?_
  intro fields hfields
  cases hread.symm.trans hfields

end CounterTables
