/-!
# The catalog

Products belong to families. The catalog lists the families in order, each with
the names of its documents; the product of a document is named by what comes
before the first point of that name.

## Main definitions

* `productName` — the product of a document.
* `Catalog.entries` — one entry per document, in order.
* `Catalog.select` — all entries, or those of one product.
-/

namespace CounterTables

/-- What comes before the first point. -/
def beforePoint (cs : List Char) : List Char :=
  cs.takeWhile (· != '.')

/-- The name of the product that a document describes. -/
def productName (document : String) : String :=
  String.ofList (beforePoint document.toList)

/-! ## Entries -/

structure Family where
  name : String
  documents : List String
  deriving DecidableEq

structure Catalog where
  families : List Family
  deriving DecidableEq

/-- A document of the catalog and the product it describes. -/
structure Entry where
  family : String
  document : String
  product : String
  deriving DecidableEq

/-- The entry of a document in a family. -/
def Entry.of (family document : String) : Entry :=
  ⟨family, document, productName document⟩

namespace Catalog

/-- The catalog that is used unless another is given. -/
def standard : Catalog where
  families := [
    { name := "neoverse"
      documents := [
        "neoverse-n1.json",
        "neoverse-n2-r0p0.json",
        "neoverse-n2-r0p1.json",
        "neoverse-n2-r0p3.json",
        "neoverse-n2.json",
        "neoverse-v1.json",
        "neoverse-v2.json"] }]

/-- One entry per document, in order. -/
def entries (catalog : Catalog) : List Entry :=
  catalog.families.flatMap fun family => family.documents.map (Entry.of family.name)

/-- Whether an entry goes by a name: that of its product or that of its
document. -/
def matchesName (name : String) (entry : Entry) : Bool :=
  entry.product == name || entry.document == name

/-- The entries that go by a name, or all of them; `none` if there are none to
that name. -/
def select (catalog : Catalog) : Option String → Option (List Entry)
  | none => some catalog.entries
  | some name =>
      match catalog.entries.filter (matchesName name) with
      | [] => none
      | selected => some selected

end Catalog

end CounterTables
